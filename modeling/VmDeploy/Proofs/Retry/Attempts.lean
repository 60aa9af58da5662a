import VmDeploy.Proofs.Program.Runs
import VmDeploy.Services

/-!
# Runs of a number of attempts

How a strategy goes that makes a number of attempts (`Retry.Tries`): an attempt that succeeds
or is refused ends it, one that fails is slept on and tried again, and the last one is not
slept on. The runs of the strategy are exactly these (`runs_attemptsLeft_iff`).

Success means that the last attempt succeeded, or that none was to be made.
-/

set_option autoImplicit false

namespace VmDeploy

namespace Retry

variable {σ ε : Type} {env : Environment services σ} {max : UInt32} {delay : Duration}
  {attempt : ServiceProgram (Attempt ε)} {left : Nat} {s s' : σ}
  {ms : List (Moment services σ)} {r : Except (RetryError ε) Unit}

/-- The moments of the attempts that are left of a number of them, and how they end. -/
inductive Tries (env : Environment services σ) (max : UInt32) (delay : Duration)
    (attempt : ServiceProgram (Attempt ε)) :
    (left : Nat) → σ → List (Moment services σ) → Except (RetryError ε) Unit → σ → Prop
  | none {s : σ} : Tries env max delay attempt 0 s [] (.ok ()) s
  | succeeded {left : Nat} {s s' : σ} {ms : List (Moment services σ)}
      (tried : attempt.Runs env s ms .succeeded s') :
      Tries env max delay attempt (left + 1) s ms (.ok ()) s'
  | refused {left : Nat} {e : ε} {s s' : σ} {ms : List (Moment services σ)}
      (tried : attempt.Runs env s ms (.refused e) s') :
      Tries env max delay attempt (left + 1) s ms (.error ⟨.notRetryable, e⟩) s'
  | exhausted {e : ε} {s s' : σ} {ms : List (Moment services σ)}
      (tried : attempt.Runs env s ms (.failed e) s') :
      Tries env max delay attempt 1 s ms (.error ⟨.exhausted max, e⟩) s'
  | again {left : Nat} {e : ε} {s s₁ s₂ s' : σ} {ms₁ ms₂ : List (Moment services σ)}
      {r : Except (RetryError ε) Unit} (tried : attempt.Runs env s ms₁ (.failed e) s₁)
      (slept : env s₁ (.sleep delay) () s₂)
      (rest : Tries env max delay attempt (left + 1) s₂ ms₂ r s') :
      Tries env max delay attempt (left + 2) s (ms₁ ++ ⟨s₁, .sleep delay, ()⟩ :: ms₂) r s'

theorem runs_sleep_iff {span : Duration} {u : Unit} :
    Program.Runs env (MonadSleep.sleep span : ServiceProgram Unit) s ms u s' ↔
      ms = [⟨s, .sleep span, u⟩] ∧ env s (.sleep span) u s' :=
  Program.runs_question_iff

/-- The runs of the attempts that are left are told by `Tries`. -/
theorem runs_attemptsLeft_iff :
    Program.Runs env (attemptsLeft max delay attempt left) s ms r s' ↔
      Tries env max delay attempt left s ms r s' := by
  constructor
  · intro run
    induction left generalizing s ms with
    | zero =>
      obtain ⟨rfl, rfl, rfl⟩ := Program.runs_pure_iff.mp run
      exact .none
    | succ left ih =>
      rw [attemptsLeft] at run
      obtain ⟨ended, s₁, ms₁, _, rfl, tried, later⟩ := Program.runs_bind_iff.mp run
      cases ended with
      | succeeded =>
        obtain ⟨rfl, rfl, rfl⟩ := Program.runs_pure_iff.mp later
        rw [List.append_nil]
        exact .succeeded tried
      | refused e =>
        obtain ⟨rfl, rfl, rfl⟩ := Program.runs_pure_iff.mp later
        rw [List.append_nil]
        exact .refused tried
      | failed e =>
        cases left with
        | zero =>
          obtain ⟨rfl, rfl, rfl⟩ := Program.runs_pure_iff.mp later
          rw [List.append_nil]
          exact .exhausted tried
        | succ left =>
          obtain ⟨_, s₂, _, ms₂, rfl, sleeps, rest⟩ := Program.runs_bind_iff.mp later
          obtain ⟨rfl, slept⟩ := runs_sleep_iff.mp sleeps
          exact .again tried slept (ih rest)
  · intro tries
    induction tries with
    | none => exact .done
    | succeeded tried | refused tried | exhausted tried =>
      rw [attemptsLeft]
      refine Program.runs_bind_iff.mpr ⟨_, _, _, [], (List.append_nil _).symm, tried, ?_⟩
      exact Program.runs_pure_iff.mpr ⟨rfl, rfl, rfl⟩
    | again tried slept _ ih =>
      rw [attemptsLeft]
      refine Program.runs_bind_iff.mpr ⟨_, _, _, _, rfl, tried, ?_⟩
      exact Program.runs_bind_iff.mpr ⟨(), _, [_], _, rfl, runs_sleep_iff.mpr ⟨rfl, slept⟩, ih⟩

/-- Attempts that end with success end with one that succeeded, if there was any to be made. -/
theorem Tries.last (tries : Tries env max delay attempt left s ms (.ok ()) s') (some : left ≠ 0) :
    ∃ before s₁ last, ms = before ++ last ∧ attempt.Runs env s₁ last .succeeded s' := by
  generalize ended : Except.ok () = r at tries
  induction tries with
  | none => exact absurd rfl some
  | succeeded tried => exact ⟨[], _, _, rfl, tried⟩
  | refused _ | exhausted _ => cases ended
  | again _ _ _ ih =>
    obtain ⟨before, s₁, last, rfl, tried⟩ := ih (Nat.succ_ne_zero _) ended
    exact ⟨_, s₁, last, (List.append_assoc _ (_ :: before) _).symm, tried⟩

/-- Where no attempt is to be made none is made, and that is a success. -/
theorem Tries.eq_of_zero (tries : Tries env max delay attempt 0 s ms r s') :
    ms = [] ∧ r = .ok () ∧ s' = s := by
  cases tries
  exact ⟨rfl, rfl, rfl⟩

end Retry

end VmDeploy
