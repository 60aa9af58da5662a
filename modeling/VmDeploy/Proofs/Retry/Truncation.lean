import Mathlib.Logic.Function.Iterate
import VmDeploy.Proofs.Retry.Deadline

/-!
# Attempts without and with a bound

A strategy that makes at most so many attempts is the strategy without bound, cut off behind the
last attempt it may make (`attempts_cutsShort`). If some attempt up to that one settles the matter,
both say the same behind the same attempts and delays, and so does every larger number of attempts.
Otherwise as many attempts as allowed are made, with one delay less, and the last error is told.

The two loops are compared for attempts that may do anything to the state, and for any way to sleep
(`run_attemptsLeft_of_settled`, `run_unlimited_of_settled`): both are in the same state before each
attempt, the one that `goOn` leads to. A `Journal` then shows what that state comes to for attempts
that follow a script.
-/

set_option autoImplicit false

namespace VmDeploy

/-- What a strategy says behind an attempt that settles the matter. -/
def Attempt.verdict? {ε : Type} : Attempt ε → Option (Except (RetryError ε) Unit)
  | .succeeded => some (.ok ())
  | .refused e => some (.error ⟨.notRetryable, e⟩)
  | .failed _ => none

namespace Retry

variable {σ ε : Type}

/-! ## The two loops -/

section

variable [MonadSleep (StateM σ)]

/-- An attempt and the delay behind it. -/
def goOn (delay : Duration) (attempt : StateM σ (Attempt ε)) (s : σ) : σ :=
  ((MonadSleep.sleep delay : StateM σ Unit).run (attempt.run s).2).2

/-- How an attempt ends, and the state behind it, when a number of them was made before it and each
was slept on. -/
def attemptBehind (delay : Duration) (attempt : StateM σ (Attempt ε)) (s : σ) (made : Nat) :
    Attempt ε × σ :=
  attempt.run ((goOn delay attempt)^[made] s)

/-- The first attempts of a number of them fail. -/
def AllFail (delay : Duration) (attempt : StateM σ (Attempt ε)) (s : σ) (count : Nat) : Prop :=
  ∀ k < count, ∃ e, (attemptBehind delay attempt s k).1 = .failed e

variable {max : UInt32} {delay : Duration} {attempt : StateM σ (Attempt ε)} {s : σ}
  {made left patience : Nat} {verdict : Except (RetryError ε) Unit}

theorem AllFail.first (failed : AllFail delay attempt s (made + 1)) :
    ∃ e, (attempt.run s).1 = .failed e :=
  failed 0 (Nat.succ_pos made)

theorem AllFail.rest (failed : AllFail delay attempt s (made + 1)) :
    AllFail delay attempt (goOn delay attempt s) made :=
  fun k less => failed (k + 1) (Nat.succ_lt_succ less)

/-- An attempt that settles the matter ends a number of attempts. -/
theorem run_attemptsLeft_settled (settled : (attempt.run s).1.verdict? = some verdict) :
    (attemptsLeft max delay attempt (left + 1)).run s = (verdict, (attempt.run s).2) := by
  rw [attemptsLeft, StateT.run_bind]
  generalize attempt.run s = tried at settled ⊢
  obtain ⟨outcome, s'⟩ := tried
  cases outcome with
  | failed e => cases settled
  | succeeded | refused e =>
    cases settled
    rfl

/-- The last of a number of attempts is not slept on. -/
theorem run_attemptsLeft_last {e : ε} (failed : (attempt.run s).1 = .failed e) :
    (attemptsLeft max delay attempt 1).run s
      = (.error ⟨.exhausted max, e⟩, (attempt.run s).2) := by
  rw [attemptsLeft, StateT.run_bind]
  generalize attempt.run s = tried at failed ⊢
  obtain ⟨outcome, s'⟩ := tried
  cases failed
  rfl

/-- Any other is, and tried again. -/
theorem run_attemptsLeft_again {e : ε} (failed : (attempt.run s).1 = .failed e) :
    (attemptsLeft max delay attempt (left + 2)).run s
      = (attemptsLeft max delay attempt (left + 1)).run (goOn delay attempt s) := by
  rw [attemptsLeft, StateT.run_bind, goOn]
  generalize attempt.run s = tried at failed ⊢
  obtain ⟨outcome, s'⟩ := tried
  cases failed
  rfl

/-- An attempt that settles the matter ends a strategy without bound. -/
theorem run_unlimited_settled (settled : (attempt.run s).1.verdict? = some verdict) :
    (unlimited delay attempt (patience + 1)).run s = (some verdict, (attempt.run s).2) := by
  rw [unlimited, StateT.run_bind]
  generalize attempt.run s = tried at settled ⊢
  obtain ⟨outcome, s'⟩ := tried
  cases outcome with
  | failed e => cases settled
  | succeeded | refused e =>
    cases settled
    rfl

/-- Any other is slept on and tried again. -/
theorem run_unlimited_again {e : ε} (failed : (attempt.run s).1 = .failed e) :
    (unlimited delay attempt (patience + 1)).run s
      = (unlimited delay attempt patience).run (goOn delay attempt s) := by
  rw [unlimited, StateT.run_bind, goOn]
  generalize attempt.run s = tried at failed ⊢
  obtain ⟨outcome, s'⟩ := tried
  cases failed
  rfl

/-- A number of attempts ends with the first that settles the matter. -/
theorem run_attemptsLeft_of_settled (failed : AllFail delay attempt s made)
    (settled : (attemptBehind delay attempt s made).1.verdict? = some verdict)
    (within : made < left) :
    (attemptsLeft max delay attempt left).run s
      = (verdict, (attemptBehind delay attempt s made).2) := by
  induction made generalizing s left with
  | zero =>
    obtain ⟨left, rfl⟩ := Nat.exists_eq_add_one_of_ne_zero (Nat.ne_of_gt within)
    exact run_attemptsLeft_settled settled
  | succ made ih =>
    obtain ⟨left, rfl⟩ := Nat.exists_eq_add_of_le' (Nat.succ_le_of_lt within)
    obtain ⟨e, first⟩ := failed.first
    rw [show left + (made + 1).succ = left + made + 2 from rfl, run_attemptsLeft_again first]
    exact ih failed.rest settled (by omega)

/-- So does a strategy without bound. -/
theorem run_unlimited_of_settled (failed : AllFail delay attempt s made)
    (settled : (attemptBehind delay attempt s made).1.verdict? = some verdict)
    (within : made < patience) :
    (unlimited delay attempt patience).run s
      = (some verdict, (attemptBehind delay attempt s made).2) := by
  induction made generalizing s patience with
  | zero =>
    obtain ⟨patience, rfl⟩ := Nat.exists_eq_add_one_of_ne_zero (Nat.ne_of_gt within)
    exact run_unlimited_settled settled
  | succ made ih =>
    obtain ⟨patience, rfl⟩ := Nat.exists_eq_add_one_of_ne_zero (Nat.ne_zero_of_lt within)
    obtain ⟨e, first⟩ := failed.first
    rw [run_unlimited_again first]
    exact ih failed.rest settled (Nat.lt_of_succ_lt_succ within)

variable (max) in
/-- Where all of a number of attempts fail the error of the last is told, which is not slept on. -/
theorem run_attemptsLeft_of_failed (failed : AllFail delay attempt s (left + 1)) :
    ∃ e, (attemptBehind delay attempt s left).1 = .failed e ∧
      (attemptsLeft max delay attempt (left + 1)).run s
        = (.error ⟨.exhausted max, e⟩, (attemptBehind delay attempt s left).2) := by
  induction left generalizing s with
  | zero =>
    obtain ⟨e, first⟩ := failed.first
    exact ⟨e, first, run_attemptsLeft_last first⟩
  | succ left ih =>
    obtain ⟨e, last, run⟩ := ih failed.rest
    refine ⟨e, last, ?_⟩
    obtain ⟨_, first⟩ := failed.first
    rw [run_attemptsLeft_again first]
    exact run

/-- A strategy without bound tries again as long as attempts fail. -/
theorem run_unlimited_of_failed (failed : AllFail delay attempt s patience) :
    (unlimited delay attempt patience).run s = (none, (goOn delay attempt)^[patience] s) := by
  induction patience generalizing s with
  | zero => rfl
  | succ patience ih =>
    obtain ⟨e, first⟩ := failed.first
    rw [run_unlimited_again first]
    exact ih failed.rest

end

/-! ## Attempts that follow a script -/

/-- A timeline with the delays that were slept, the first first. -/
structure Journal (ε : Type) extends Timeline ε where
  sleeps : List Duration

namespace Journal

instance : MonadSleep (StateM (Journal ε)) where
  sleep span := modify fun j =>
    { j with clock := j.clock + span, sleeps := j.sleeps ++ [span] }

/-- Makes the attempt that is next in a script. -/
def attempt (script : Nat → Deed ε) : StateM (Journal ε) (Attempt ε) := do
  let j ← get
  let (outcome, timeline) := (Timeline.attempt script).run j.toTimeline
  set ({ j with toTimeline := timeline } : Journal ε)
  return outcome

/-- The journal of which nothing is written yet. -/
def blank (start : Duration) : Journal ε := ⟨⟨start, []⟩, []⟩

/-- When an attempt starts before which a number of others was made, each of them slept on. -/
def startOf (script : Nat → Deed ε) (start delay : Duration) : (made : Nat) → Duration
  | 0 => start
  | made + 1 => ((script made).begun (startOf script start delay made)).finish + delay

/-- The attempt before which a number of others was made, each of them slept on. -/
def trialOf (script : Nat → Deed ε) (start delay : Duration) (made : Nat) : Trial ε :=
  (script made).begun (startOf script start delay made)

/-- So many attempts were made, and each of them was slept on. -/
def goingOn (script : Nat → Deed ε) (start delay : Duration) (made : Nat) : Journal ε where
  clock := startOf script start delay made
  trials := (List.range made).map (trialOf script start delay)
  sleeps := List.replicate made delay

/-- So many attempts were made, each of them slept on, and a last one. -/
def ended (script : Nat → Deed ε) (start delay : Duration) (made : Nat) : Journal ε where
  clock := (trialOf script start delay made).finish
  trials := (List.range (made + 1)).map (trialOf script start delay)
  sleeps := List.replicate made delay

variable {script : Nat → Deed ε} {start delay : Duration} {made : Nat}

/-- The next attempt in a script. -/
theorem run_attempt_goingOn : (attempt script).run (goingOn script start delay made)
    = ((script made).outcome, ended script start delay made) := by
  have run (j : Journal ε) : (attempt script).run j = ((script j.trials.length).outcome,
      ⟨⟨((script j.trials.length).begun j.clock).finish,
        j.trials ++ [(script j.trials.length).begun j.clock]⟩, j.sleeps⟩) :=
    rfl
  have next : (goingOn script start delay made).trials.length = made := by simp [goingOn]
  rw [run, next]
  simp [ended, goingOn, trialOf, List.range_succ]

/-- What was written when a number of attempts was made and each of them slept on. -/
theorem iterate_goOn :
    (goOn delay (attempt script))^[made] (blank start) = goingOn script start delay made := by
  induction made with
  | zero => rfl
  | succ made ih =>
    rw [Function.iterate_succ_apply', ih, goOn, run_attempt_goingOn]
    show (⟨⟨_, _⟩, _⟩ : Journal ε) = _
    simp [ended, goingOn, startOf, trialOf, List.replicate_succ']

theorem attemptBehind_blank : attemptBehind delay (attempt script) (blank start) made
    = ((script made).outcome, ended script start delay made) := by
  rw [attemptBehind, iterate_goOn, run_attempt_goingOn]

end Journal

/-- How a strategy of so many attempts compares with the one without bound, of which one looks at
the attempts that one has patience for. -/
structure CutsShort (script : Nat → Deed ε) (start delay : Duration) (max : UInt32) : Prop where
  /-- The matter is settled in time. Both strategies say the same behind the same attempts and
  delays, and more attempts would not change it. -/
  settled : ∀ made verdict, (∀ k < made, ∃ e, (script k).outcome = .failed e) →
    (script made).outcome.verdict? = some verdict → made < max.toNat →
      (∀ more, max ≤ more → (attempts more delay (Journal.attempt script)).run (.blank start)
        = (verdict, .ended script start delay made)) ∧
      ∀ patience, made < patience →
        (unlimited delay (Journal.attempt script) patience).run (.blank start)
          = (some verdict, .ended script start delay made)
  /-- All attempts that may be made fail. The last of them is not slept on. -/
  exhausted : (∀ k < max.toNat, ∃ e, (script k).outcome = .failed e) →
    ∃ last e, max.toNat = last + 1 ∧ (script last).outcome = .failed e ∧
      (attempts max delay (Journal.attempt script)).run (.blank start)
        = (.error ⟨.exhausted max, e⟩, .ended script start delay last)
  /-- Without bound there is no end before the matter is settled. -/
  endless : ∀ patience, (∀ k < patience, ∃ e, (script k).outcome = .failed e) →
    (unlimited delay (Journal.attempt script) patience).run (.blank start)
      = (none, .goingOn script start delay patience)

/-- A strategy that makes at most so many attempts cuts the one without bound short. -/
theorem attempts_cutsShort (script : Nat → Deed ε) (start delay : Duration) (max : UInt32)
    (some : max ≠ 0) : CutsShort script start delay max := by
  have allFail {count : Nat} (failed : ∀ k < count, ∃ e, (script k).outcome = .failed e) :
      AllFail delay (Journal.attempt script) (.blank start) count := fun k less => by
    rw [Journal.attemptBehind_blank]
    exact failed k less
  refine ⟨fun made verdict failed settles within => ?settled, fun failed => ?exhausted,
    fun patience failed => ?endless⟩
  case settled =>
    have settled : (attemptBehind delay (Journal.attempt script) (.blank start) made).1.verdict?
        = Option.some verdict := by
      rw [Journal.attemptBehind_blank]
      exact settles
    refine ⟨fun more le => ?_, fun patience enough => ?_⟩
    · have enough : made < more.toNat := Nat.lt_of_lt_of_le within (UInt32.le_iff_toNat_le.mp le)
      rw [attempts, run_attemptsLeft_of_settled (allFail failed) settled enough,
        Journal.attemptBehind_blank]
    · rw [run_unlimited_of_settled (allFail failed) settled enough, Journal.attemptBehind_blank]
  case exhausted =>
    have counted : max.toNat ≠ 0 := fun none => some (UInt32.toNat_inj.mp none)
    obtain ⟨last, here⟩ := Nat.exists_eq_add_one_of_ne_zero counted
    rw [here] at failed
    obtain ⟨e, ended, run⟩ := run_attemptsLeft_of_failed max (allFail failed)
    rw [Journal.attemptBehind_blank] at ended run
    exact ⟨last, e, here, ended, by rw [attempts, here, run]⟩
  case endless =>
    rw [run_unlimited_of_failed (allFail failed), Journal.iterate_goOn]

/-- Two attempts of 10 ms that fail and one that succeeds, with delays of 100 ms. -/
theorem attempts_cutsShort_sample :
    let script : Nat → Deed String := fun k =>
      ⟨.ofMillis 10, if k < 2 then .failed "not ready" else .succeeded⟩
    (3 : UInt32) ≠ 0 ∧ (Journal.ended script .zero (.ofMillis 100) 2).clock = .ofMillis 230 ∧
      CutsShort script .zero (.ofMillis 100) 3 :=
  ⟨by decide, by decide, attempts_cutsShort _ _ _ _ (by decide)⟩

end Retry

end VmDeploy
