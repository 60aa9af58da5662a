import VmDeploy.Retry

/-!
# Attempts before a deadline

How a strategy goes that tries until a deadline, whatever the attempts do and however long they
take: when it tries again, when it stops, how often it tries at most, and what it says in the end
(`KeepsDeadline`). Nothing but attempts and sleeps takes time here, and a sleep takes exactly as
long as it was asked to (`Timeline`).

From each attempt to the next the time that is left for more shrinks by a delay at least, so if
there is a delay it is the deadline that stops the strategy (`takesCourse`). It counts its attempts
in thirty-two bits; what it says of their number is right as long as the delays alone that fit in
the timeout can be counted so.
-/

set_option autoImplicit false

namespace VmDeploy

namespace Retry

variable {ε : Type}

/-! ## Scripts and timelines -/

/-- What an attempt does if it is made: how long it takes and how it ends. -/
structure Deed (ε : Type) where
  takes : Duration
  outcome : Attempt ε

/-- An attempt that was made. -/
structure Trial (ε : Type) where
  start : Duration
  finish : Duration
  outcome : Attempt ε

/-- The deed, begun at a time. -/
def Deed.begun (deed : Deed ε) (start : Duration) : Trial ε :=
  ⟨start, start + deed.takes, deed.outcome⟩

/-- The time, and the attempts that were made, the first first. -/
structure Timeline (ε : Type) where
  clock : Duration
  trials : List (Trial ε)

namespace Timeline

instance : MonadClock (StateM (Timeline ε)) where
  sleep span := modify fun s => { s with clock := s.clock + span }
  now := return (← get).clock

/-- Makes the attempt that is next in a script. -/
def attempt (script : Nat → Deed ε) : StateM (Timeline ε) (Attempt ε) := do
  let s ← get
  let trial := (script s.trials.length).begun s.clock
  set (⟨trial.finish, s.trials ++ [trial]⟩ : Timeline ε)
  return trial.outcome

end Timeline

/-! ## The course of the attempts -/

section

variable (script : Nat → Deed ε) (started deadline delay : Duration)

/-- How the attempts go on from a time, when a number of them was made. -/
inductive Course : (made : Nat) → (clock : Duration) → List (Trial ε) →
    Except (RetryError ε) Unit → Prop
  | succeeded {made : Nat} {clock : Duration} (ended : (script made).outcome = .succeeded) :
      Course made clock [(script made).begun clock] (.ok ())
  | refused {made : Nat} {clock : Duration} {e : ε} (ended : (script made).outcome = .refused e) :
      Course made clock [(script made).begun clock] (.error ⟨.notRetryable, e⟩)
  | late {made : Nat} {clock : Duration} {e : ε} (ended : (script made).outcome = .failed e)
      (late : deadline < ((script made).begun clock).finish + delay) :
      Course made clock [(script made).begun clock]
        (.error ⟨.timedOut (((script made).begun clock).finish - started) (.ofNat (made + 1)), e⟩)
  | again {made : Nat} {clock : Duration} {e : ε} {trials : List (Trial ε)}
      {result : Except (RetryError ε) Unit} (ended : (script made).outcome = .failed e)
      (inTime : ((script made).begun clock).finish + delay ≤ deadline)
      (rest : Course (made + 1) (((script made).begun clock).finish + delay) trials result) :
      Course made clock ((script made).begun clock :: trials) result

end

section

variable {script : Nat → Deed ε} {started deadline delay clock : Duration} {made left : Nat}
  {trials before : List (Trial ε)} {result : Except (RetryError ε) Unit}

/-- One attempt, and what it leads to. -/
theorem run_untilDeadlineFrom (left : Nat) (count : UInt32) :
    (untilDeadlineFrom started deadline delay (Timeline.attempt script) left count).run
        ⟨clock, before⟩
      = let trial := (script before.length).begun clock
        let after : Timeline ε := ⟨trial.finish, before ++ [trial]⟩
        match (script before.length).outcome with
        | .succeeded => (.ok (), after)
        | .refused e => (.error ⟨.notRetryable, e⟩, after)
        | .failed e =>
          if deadline < trial.finish + delay then
            (.error ⟨.timedOut (trial.finish - started) (count + 1), e⟩, after)
          else
            let slept : Timeline ε := { after with clock := trial.finish + delay }
            match left with
            | 0 => (.error ⟨.timedOut (trial.finish - started) (count + 1), e⟩, slept)
            | left + 1 =>
              (untilDeadlineFrom started deadline delay (Timeline.attempt script) left
                (count + 1)).run slept := by
  have tried : (Timeline.attempt script).run ⟨clock, before⟩
      = ((script before.length).outcome,
        ⟨clock + (script before.length).takes, before ++ [(script before.length).begun clock]⟩) :=
    rfl
  rw [untilDeadlineFrom, StateT.run_bind, tried]
  obtain ⟨takes, outcome⟩ := script before.length
  cases outcome with
  | succeeded => rfl
  | refused e => rfl
  | failed e =>
    show StateT.run (m := Id) (if deadline < clock + takes + delay then _ else _) _
      = if deadline < clock + takes + delay then _ else _
    split
    · rfl
    · cases left <;> rfl

/-- The strategy takes its course from a time on. -/
def TakesCourse (script : Nat → Deed ε) (started deadline delay : Duration) (left : Nat)
    (clock : Duration) (before : List (Trial ε)) : Prop :=
  ∃ finish trials result,
    (untilDeadlineFrom started deadline delay (Timeline.attempt script) left
        (.ofNat before.length)).run ⟨clock, before⟩ = (result, ⟨finish, before ++ trials⟩) ∧
      Course script started deadline delay before.length clock trials result

/-- It does from an attempt on if it does from the next one on, where there is to be one. -/
theorem takesCourse_of_next {before : List (Trial ε)}
    (next : ((script before.length).begun clock).finish + delay ≤ deadline →
      ∃ left', left = left' + 1 ∧ TakesCourse script started deadline delay left'
        (((script before.length).begun clock).finish + delay)
        (before ++ [(script before.length).begun clock])) :
    TakesCourse script started deadline delay left clock before := by
  have counted : UInt32.ofNat before.length + 1 = .ofNat (before.length + 1) :=
    (UInt32.ofNat_add _ _).symm
  unfold TakesCourse
  rw [run_untilDeadlineFrom, counted]
  cases ended : (script before.length).outcome with
  | succeeded => exact ⟨_, _, _, rfl, .succeeded ended⟩
  | refused e => exact ⟨_, _, _, rfl, .refused ended⟩
  | failed e =>
    by_cases late : deadline < ((script before.length).begun clock).finish + delay
    · simp only [late, if_true]
      exact ⟨_, _, _, rfl, .late ended late⟩
    · have inTime : ((script before.length).begun clock).finish + delay ≤ deadline :=
        Nat.not_lt.mp late
      obtain ⟨left', rfl, _, trials, result, run, course⟩ := next inTime
      simp only [late, if_false]
      rw [List.length_append] at run course
      exact ⟨_, _, _, by simpa using run, .again ended inTime course⟩

/-- Before each attempt there is room for more attempts than delays fit in the time that is left, so
it is the deadline that ends the course. -/
theorem takesCourse (script : Nat → Deed ε) (started : Duration) (before : List (Trial ε))
    (allowed : deadline.nanos < clock.nanos + (left + 1) * delay.nanos) :
    TakesCourse script started deadline delay left clock before := by
  induction left generalizing clock before with
  | zero =>
    refine takesCourse_of_next fun inTime => ?_
    simp only [Duration.le_iff, Duration.nanos_add, Deed.begun] at inTime allowed
    omega
  | succ left ih =>
    refine takesCourse_of_next fun _ => ⟨left, rfl, ih _ ?_⟩
    rw [Nat.succ_mul] at allowed
    simp only [Duration.nanos_add, Deed.begun]
    omega

/-! ## What holds of every course -/

/-- What the strategy says when an attempt was the last of a number of them. -/
def closing (started : Duration) (count : Nat) (last : Trial ε) :
    Except (RetryError ε) Unit :=
  match last.outcome with
  | .succeeded => .ok ()
  | .refused e => .error ⟨.notRetryable, e⟩
  | .failed e => .error ⟨.timedOut (last.finish - started) (.ofNat count), e⟩

namespace Course

/-- The first attempt is made right away. -/
theorem first (course : Course script started deadline delay made clock trials result) :
    ∃ rest, trials = (script made).begun clock :: rest := by
  cases course <;> exact ⟨_, rfl⟩

/-- The attempts do what the script says. -/
theorem deeds (course : Course script started deadline delay made clock trials result) :
    ∀ (k : Nat) (trial : Trial ε), trials[k]? = some trial →
      trial = (script (made + k)).begun trial.start := by
  induction course with
  | succeeded _ | refused _ | late _ _ =>
    rintro (_ | k) trial ⟨⟩
    rfl
  | again _ _ _ ih =>
    rintro (_ | k) trial here
    · cases here
      rfl
    · rw [Nat.add_comm k 1, ← Nat.add_assoc]
      exact ih k trial here

/-- There is a next attempt if one failed and the next would not be late. -/
theorem again_iff (course : Course script started deadline delay made clock trials result) :
    ∀ (k : Nat) (trial : Trial ε), trials[k]? = some trial →
      (k + 1 < trials.length ↔
        (∃ e, trial.outcome = .failed e) ∧ trial.finish + delay ≤ deadline) := by
  induction course with
  | succeeded ended | refused ended =>
    rintro (_ | k) trial ⟨⟩
    simp [Deed.begun, ended]
  | late ended late =>
    rintro (_ | k) trial ⟨⟩
    have notInTime : ¬((script _).begun _).finish + delay ≤ deadline := Nat.not_le.mpr late
    simp [notInTime]
  | again ended inTime rest ih =>
    rintro (_ | k) trial here
    · cases here
      obtain ⟨_, rfl⟩ := rest.first
      exact ⟨fun _ => ⟨⟨_, ended⟩, inTime⟩, fun _ => by simp⟩
    · simpa using ih k trial here

/-- The next attempt starts a delay behind the end of the one before. -/
theorem again_start (course : Course script started deadline delay made clock trials result) :
    ∀ (k : Nat) (trial next : Trial ε), trials[k]? = some trial → trials[k + 1]? = some next →
      next.start = trial.finish + delay := by
  induction course with
  | succeeded _ | refused _ | late _ _ => rintro k trial next - ⟨⟩
  | again _ _ rest ih =>
    rintro (_ | k) trial next here after
    · obtain ⟨_, rfl⟩ := rest.first
      cases here
      cases after
      rfl
    · exact ih k trial next here after

/-- No attempt starts behind the deadline. -/
theorem inTime (course : Course script started deadline delay made clock trials result)
    (inTime : clock ≤ deadline) : ∀ trial ∈ trials, trial.start ≤ deadline := by
  induction course with
  | succeeded _ | refused _ | late _ _ => exact List.forall_mem_singleton.mpr inTime
  | again _ next _ ih => exact List.forall_mem_cons.mpr ⟨inTime, ih next⟩

/-- The delays between the attempts fit in the time before the deadline. -/
theorem delays (course : Course script started deadline delay made clock trials result)
    (inTime : clock ≤ deadline) :
    clock.nanos + (trials.length - 1) * delay.nanos ≤ deadline.nanos := by
  induction course with
  | succeeded _ | refused _ | late _ _ => simpa using Duration.le_iff.mp inTime
  | again _ next rest ih =>
    obtain ⟨others, rfl⟩ := rest.first
    have fit := ih next
    simp only [List.length_cons, Nat.add_sub_cancel, Duration.nanos_add, Deed.begun] at fit ⊢
    rw [Nat.succ_mul]
    omega

/-- All attempts but the last failed, and the last says how it ends. -/
theorem closes (course : Course script started deadline delay made clock trials result) :
    ∃ before last, trials = before ++ [last] ∧ (∀ trial ∈ before, ∃ e, trial.outcome = .failed e) ∧
      clock ≤ last.finish ∧ result = closing started (made + trials.length) last := by
  induction course with
  | succeeded ended | refused ended | late ended _ =>
    refine ⟨[], _, rfl, nofun, Nat.le_add_right _ _, ?_⟩
    simp [closing, Deed.begun, ended]
  | again ended _ _ ih =>
    obtain ⟨before, last, rfl, failed, later, result⟩ := ih
    refine ⟨_ :: before, last, rfl, List.forall_mem_cons.mpr ⟨⟨_, ended⟩, failed⟩, ?_, ?_⟩
    · simp only [Duration.le_iff, Duration.nanos_add, Deed.begun] at later ⊢
      omega
    · rw [result]
      congr 1
      simp
      omega

end Course

/-! ## The strategy -/

/-- How a strategy keeps its deadline: the attempts that it made, the first of them at `start`, and
its result. -/
structure KeepsDeadline (script : Nat → Deed ε) (start timeout delay : Duration)
    (trials : List (Trial ε)) (result : Except (RetryError ε) Unit) : Prop where
  /-- The first attempt is made at once. -/
  first : ∃ rest, trials = (script 0).begun start :: rest
  /-- The attempts do what the script says. -/
  deeds : ∀ (k : Nat) (trial : Trial ε), trials[k]? = some trial →
    trial = (script k).begun trial.start
  /-- Behind an attempt another is made exactly if it failed and the delay behind it ends in time. -/
  again_iff : ∀ (k : Nat) (trial : Trial ε), trials[k]? = some trial →
    (k + 1 < trials.length ↔
      (∃ e, trial.outcome = .failed e) ∧ trial.finish + delay ≤ start + timeout)
  /-- It starts at the end of the delay. -/
  again_start : ∀ (k : Nat) (trial next : Trial ε), trials[k]? = some trial →
    trials[k + 1]? = some next → next.start = trial.finish + delay
  inTime : ∀ trial ∈ trials, trial.start ≤ start + timeout
  atMost : trials.length ≤ timeout.nanos / delay.nanos + 1
  ok_iff : result = .ok () ↔ ∃ trial ∈ trials, trial.outcome = .succeeded
  refused_iff : ∀ e,
    result = .error ⟨.notRetryable, e⟩ ↔ ∃ trial ∈ trials, trial.outcome = .refused e
  /-- If all attempts failed the result tells of the last, when it ended and how many there were. -/
  timedOut : (∀ trial ∈ trials, ∃ e, trial.outcome = .failed e) →
    ∃ last e elapsed attempts, trials.getLast? = some last ∧ last.outcome = .failed e ∧
      result = .error ⟨.timedOut elapsed attempts, e⟩ ∧ start + elapsed = last.finish ∧
      attempts.toNat = trials.length

theorem closing_eq_ok_iff {last : Trial ε} {count : Nat} :
    closing started count last = .ok () ↔ last.outcome = .succeeded := by
  unfold closing
  cases last.outcome <;> simp

theorem closing_eq_notRetryable_iff {last : Trial ε} {count : Nat} {e : ε} :
    closing started count last = .error ⟨.notRetryable, e⟩ ↔ last.outcome = .refused e := by
  unfold closing
  cases last.outcome <;> simp

/-- Where all attempts before the last failed, only the last ended in another way. -/
theorem exists_outcome_iff {last : Trial ε} {outcome : Attempt ε}
    (failed : ∀ trial ∈ before, ∃ e, trial.outcome = .failed e)
    (other : ∀ e, outcome ≠ .failed e) :
    (∃ trial ∈ before ++ [last], trial.outcome = outcome) ↔ last.outcome = outcome := by
  constructor
  · rintro ⟨trial, mem, rfl⟩
    rcases List.mem_append.mp mem with mem | mem
    · obtain ⟨e, ended⟩ := failed trial mem
      exact absurd ended (other e)
    · rw [List.mem_singleton.mp mem]
  · exact fun ended => ⟨last, List.mem_append_right _ (List.mem_singleton.mpr rfl), ended⟩

/-- A course from the start keeps the deadline. -/
theorem Course.keepsDeadline {start timeout : Duration} (positive : 0 < delay.nanos)
    (fits : timeout.nanos / delay.nanos + 1 < UInt32.size)
    (course : Course script start (start + timeout) delay 0 start trials result) :
    KeepsDeadline script start timeout delay trials result := by
  have inTime : start ≤ start + timeout := Nat.le_add_right _ _
  have atMost : trials.length ≤ timeout.nanos / delay.nanos + 1 := by
    have delays := course.delays inTime
    have fit : trials.length - 1 ≤ timeout.nanos / delay.nanos :=
      (Nat.le_div_iff_mul_le positive).mpr (Nat.add_le_add_iff_left.mp delays)
    omega
  obtain ⟨before, last, split, failed, later, closed⟩ := course.closes
  rw [Nat.zero_add] at closed
  exact {
    first := course.first
    deeds := fun k trial here => by simpa using course.deeds k trial here
    again_iff := course.again_iff
    again_start := course.again_start
    inTime := course.inTime inTime
    atMost := atMost
    ok_iff := by
      rw [closed, closing_eq_ok_iff, split]
      exact (exists_outcome_iff failed fun _ => by simp).symm
    refused_iff := fun e => by
      rw [closed, closing_eq_notRetryable_iff, split]
      exact (exists_outcome_iff failed fun _ => by simp).symm
    timedOut := fun all => by
      obtain ⟨e, ended⟩ := all last (by simp [split])
      have counted : (UInt32.ofNat trials.length).toNat = trials.length :=
        UInt32.toNat_ofNat_of_lt' (by omega)
      have elapsed : start + (last.finish - start) = last.finish :=
        congrArg Duration.mk (Nat.add_sub_cancel' later)
      refine ⟨last, e, _, _, by simp [split], ended, ?_, elapsed, counted⟩
      rw [closed, closing, ended] }

theorem run_untilTimeout (script : Nat → Deed ε) (start timeout delay : Duration) :
    (untilTimeout timeout delay (Timeline.attempt script)).run ⟨start, []⟩
      = (untilDeadlineFrom start (start + timeout) delay (Timeline.attempt script)
          timeout.nanos 0).run ⟨start, []⟩ := by
  have clockRead (left : Nat) :
      (MonadClock.now >>= fun started => untilDeadlineFrom started (started + timeout) delay
          (Timeline.attempt script) left 0).run ⟨start, []⟩
        = (untilDeadlineFrom start (start + timeout) delay (Timeline.attempt script)
          left 0).run ⟨start, []⟩ :=
    rfl
  rw [untilTimeout]
  exact clockRead _

/-- Until a timeout attempts are made as `KeepsDeadline` says, whatever they do and however long
they take, if there is a delay and no more of them fit in the timeout than can be counted. -/
theorem untilTimeout_keepsDeadline (script : Nat → Deed ε) (start timeout delay : Duration)
    (positive : 0 < delay.nanos) (fits : timeout.nanos / delay.nanos + 1 < UInt32.size) :
    ∃ finish trials result,
      (untilTimeout timeout delay (Timeline.attempt script)).run ⟨start, []⟩
        = (result, ⟨finish, trials⟩) ∧
      KeepsDeadline script start timeout delay trials result := by
  have room : timeout.nanos < (timeout.nanos + 1) * delay.nanos :=
    Nat.lt_of_lt_of_le (Nat.lt_succ_self _) (Nat.le_mul_of_pos_right _ positive)
  have allowed : (start + timeout).nanos < start.nanos + (timeout.nanos + 1) * delay.nanos :=
    Nat.add_lt_add_left room _
  obtain ⟨finish, trials, result, run, course⟩ := takesCourse script start [] allowed
  refine ⟨finish, trials, result, ?_, course.keepsDeadline positive fits⟩
  exact (run_untilTimeout script start timeout delay).trans run

/-- Attempts of 400 ms that all fail, with delays of 100 ms. -/
theorem untilTimeout_keepsDeadline_sample :
    let script : Nat → Deed String := fun _ => ⟨.ofMillis 400, .failed "not ready"⟩
    let timeout := Duration.ofMillis 1000
    let delay := Duration.ofMillis 100
    0 < delay.nanos ∧ timeout.nanos / delay.nanos + 1 < UInt32.size ∧
      ∃ finish trials result,
        (untilTimeout timeout delay (Timeline.attempt script)).run ⟨.zero, []⟩
          = (result, ⟨finish, trials⟩) ∧
        KeepsDeadline script .zero timeout delay trials result :=
  ⟨by decide, by decide, untilTimeout_keepsDeadline _ _ _ _ (by decide) (by decide)⟩

end

end Retry

end VmDeploy
