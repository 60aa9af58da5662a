import Mathlib.Data.List.Basic
import VmDeploy.Proofs.Instance.Jobs

/-!
# The watch over jobs

When the jobs of an instance are looked at that were started and do not come to run. First the start
of the watch window is slept, then follow the looks, one polling interval apart (`Watches`). Their
number is that of the intervals that fit into the window where an interval counts only its whole
milliseconds.

So an interval that is no whole number of milliseconds is looked for more often than it fits into
the window, and the last looks may come behind the end of the window (`looked_too_often`). Where it
is a whole number the looks are those that fit, and none of them comes too late.
-/

set_option autoImplicit false

namespace VmDeploy

/-- The builder builds, the agent does with its jobs what it is told, and it does not say that they
run. -/
def Moment.isUnready {σ : Type} (a : AgentRef) : Moment services σ → Bool
  | ⟨_, .buildState _ _ _ _, answer⟩ => Except.isOk (ε := Failure) answer
  | ⟨_, .agent b .stop, answer⟩ => b ≠ a || Except.isOk (ε := AgentError) answer
  | ⟨_, .agent b (.apply _), answer⟩ => b ≠ a || Except.isOk (ε := AgentError) answer
  | ⟨_, .agent b .start, answer⟩ => b ≠ a || Except.isOk (ε := AgentError) answer
  | ⟨_, .agent b .getState, .ok (state : AgentState)⟩ => b ≠ a || !state.isRunning
  | _ => true

/-- What was asked, unless it is a note. -/
def Moment.asked? {σ : Type} (m : Moment services σ) : Option ServiceQuestion :=
  if m.question.isNote then none else some m.question

/-- What was asked, notes apart. -/
def asked {σ : Type} (ms : List (Moment services σ)) : List ServiceQuestion :=
  ms.filterMap Moment.asked?

/-- A number of looks at the jobs, an interval apart. -/
def lookPlan (a : AgentRef) (interval : Duration) (looks : Nat) : List ServiceQuestion :=
  (List.replicate looks (.agent a .getState)).intersperse (.sleep interval)

/-- When the jobs are looked at, where only sleeps take time. -/
def lookTimes (a : AgentRef) : (clock : Duration) → List ServiceQuestion → List Duration
  | _, [] => []
  | clock, .sleep span :: rest => lookTimes a (clock + span) rest
  | clock, .agent b .getState :: rest =>
    if b = a then clock :: lookTimes a clock rest else lookTimes a clock rest
  | clock, _ :: rest => lookTimes a clock rest

namespace WatchTime

/-- How many intervals fit into the window, as far as can be counted in thirty-two bits. -/
def fitting (watch : WatchTime) (interval : Duration) : Nat :=
  min ((Duration.ofMillis watch.window).nanos / interval.nanos) (UInt32.size - 1)

/-- The time of a look behind the start of the jobs, when a number of looks came before it. -/
def lookTime (watch : WatchTime) (interval : Duration) (before : Nat) : Duration :=
  ⟨(Duration.ofMillis watch.start.toNat).nanos + before * interval.nanos⟩

end WatchTime

/-- What is asked to bring jobs up that do not come to run: what they are is built, they are
stopped, changed and started, the start of the window is slept, and then they are looked at. -/
def watchPlan (build : ServiceQuestion) (a : AgentRef) (watch : WatchTime) (interval : Duration)
    (spec : ApplySpec) : List ServiceQuestion :=
  [build, .agent a .stop, .agent a (.apply spec), .agent a .start,
    .sleep (.ofMillis watch.start.toNat)] ++ lookPlan a interval (watch.looks interval)

/-- How jobs are watched that do not come to run. -/
structure Watches {σ : Type} (build : ServiceQuestion) (a : AgentRef) (watch : WatchTime)
    (interval : Duration) (ms : List (Moment services σ)) : Prop where
  asked : ∃ spec, asked ms = watchPlan build a watch interval spec
  /-- The first look comes at the start of the window, the others an interval apart. -/
  times : lookTimes a .zero (VmDeploy.asked ms)
    = (List.range (watch.looks interval)).map (watch.lookTime interval)
  /-- No look comes behind the end of the window exactly if the intervals between the looks fit into
  it. -/
  inTime_iff : (∀ time ∈ lookTimes a .zero (VmDeploy.asked ms),
      time ≤ .ofMillis watch.finish.toNat) ↔
    (watch.looks interval - 1) * interval.nanos ≤ (Duration.ofMillis watch.window).nanos
  /-- There are at least as many looks as intervals fit into the window, and they take at most twice
  the window. -/
  enough : watch.fitting interval ≤ watch.looks interval
  overrun : (watch.looks interval - 1) * interval.nanos
    ≤ 2 * (Duration.ofMillis watch.window).nanos
  /-- Intervals of whole milliseconds are looked for as often as they fit into the window. -/
  whole : interval = .ofMillis interval.toMillis →
    watch.looks interval = watch.fitting interval ∧
      ∀ time ∈ lookTimes a .zero (VmDeploy.asked ms), time ≤ .ofMillis watch.finish.toNat

section

variable {σ : Type} {a : AgentRef} {ms ms₁ ms₂ : List (Moment services σ)}

@[simp] theorem asked_append : asked (ms₁ ++ ms₂) = asked ms₁ ++ asked ms₂ :=
  List.filterMap_append

/-- The notes of a step do not count. -/
theorem Noted.asked {α : Type} {env : Environment services σ} {name : String} {ended : StepEnd α}
    {s s₁ s₂ s' : σ} {body : List (Moment services σ)}
    (noted : Noted env name ended s s₁ body s₂ s' ms) : asked ms = VmDeploy.asked body :=
  noted.filterMap fun _ isNote => if_pos isNote

theorem Noted.unready {α : Type} {env : Environment services σ} {name : String}
    {ended : StepEnd α} {s s₁ s₂ s' : σ} {body : List (Moment services σ)}
    (noted : Noted env name ended s s₁ body s₂ s' ms)
    (unready : ∀ m ∈ ms, m.isUnready a = true) : ∀ m ∈ body, m.isUnready a = true := by
  obtain ⟨_, _⟩ := noted
  exact fun m mem => unready m (by simp [mem])

end

/-! ## Looks and intervals -/

namespace WatchTime

variable {watch : WatchTime} {interval : Duration}

/-- Intervals count their whole milliseconds only, so at least those that fit are looked for. -/
theorem fitting_le_looks (positive : interval.toMillis ≠ 0) :
    watch.fitting interval ≤ watch.looks interval := by
  have shorter : interval.toMillis * 1000000 ≤ interval.nanos := Nat.div_mul_le_self _ _
  have fit : (Duration.ofMillis watch.window).nanos / interval.nanos
      ≤ watch.window / interval.toMillis := by
    rw [← Nat.mul_div_mul_right watch.window interval.toMillis (show 0 < 1000000 by decide)]
    exact Nat.div_le_div_left shorter (by omega)
  unfold fitting looks
  omega

/-- The milliseconds between the looks fit into the window. -/
theorem looks_mul_le : watch.looks interval * interval.toMillis ≤ watch.window :=
  Nat.le_trans (Nat.mul_le_mul_right _ (Nat.min_le_left _ _)) (Nat.div_mul_le_self _ _)

/-- Less than a millisecond is left out of each interval, so the looks take at most twice the
window. -/
theorem looks_overrun (positive : interval.toMillis ≠ 0) :
    (watch.looks interval - 1) * interval.nanos ≤ 2 * (Duration.ofMillis watch.window).nanos := by
  have longest : interval.nanos ≤ 2 * (interval.toMillis * 1000000) := by
    unfold Duration.toMillis at positive ⊢
    omega
  calc (watch.looks interval - 1) * interval.nanos
      ≤ watch.looks interval * (2 * (interval.toMillis * 1000000)) :=
        Nat.mul_le_mul (Nat.sub_le _ _) longest
    _ = 2 * (watch.looks interval * interval.toMillis * 1000000) := by
        rw [Nat.mul_left_comm, Nat.mul_assoc]
    _ ≤ 2 * (watch.window * 1000000) :=
        Nat.mul_le_mul_left _ (Nat.mul_le_mul_right _ looks_mul_le)

theorem looks_of_whole (whole : interval = .ofMillis interval.toMillis) :
    watch.looks interval = watch.fitting interval ∧
      (watch.looks interval - 1) * interval.nanos ≤ (Duration.ofMillis watch.window).nanos := by
  have nanos : interval.nanos = interval.toMillis * 1000000 := congrArg Duration.nanos whole
  constructor
  · unfold looks fitting
    rw [nanos]
    show min _ _ = min (watch.window * 1000000 / _) _
    rw [Nat.mul_div_mul_right _ _ (by decide)]
  · calc (watch.looks interval - 1) * interval.nanos
        ≤ watch.looks interval * (interval.toMillis * 1000000) :=
          Nat.mul_le_mul (Nat.sub_le _ _) (Nat.le_of_eq nanos)
      _ = watch.looks interval * interval.toMillis * 1000000 := (Nat.mul_assoc _ _ _).symm
      _ ≤ watch.window * 1000000 := Nat.mul_le_mul_right _ looks_mul_le

/-- The looks come in time if the last one does. -/
theorem lookTimes_le_iff :
    (∀ time ∈ (List.range (watch.looks interval)).map (watch.lookTime interval),
        time ≤ .ofMillis watch.finish.toNat) ↔
      (watch.looks interval - 1) * interval.nanos ≤ (Duration.ofMillis watch.window).nanos := by
  simp only [List.forall_mem_map, List.mem_range, lookTime, Duration.le_iff]
  cases looks : watch.looks interval with
  | zero => simp
  | succ last =>
    -- Where something fits into the window it does not end before it starts.
    have fits : watch.window / interval.toMillis ≠ 0 := by
      unfold WatchTime.looks at looks
      omega
    have lasts : watch.window ≠ 0 := fun none => fits (by rw [none, Nat.zero_div])
    have window : watch.start.toNat + watch.window = watch.finish.toNat := by
      unfold WatchTime.window at lasts ⊢
      omega
    have finish : (Duration.ofMillis watch.finish.toNat).nanos
        = (Duration.ofMillis watch.start.toNat).nanos + (Duration.ofMillis watch.window).nanos := by
      rw [← window]
      exact Nat.add_mul _ _ _
    rw [finish, Nat.add_sub_cancel]
    constructor
    · intro inTime
      exact Nat.add_le_add_iff_left.mp (inTime last (Nat.lt_succ_self last))
    · intro fit before less
      refine Nat.add_le_add_left (Nat.le_trans ?_ fit) _
      exact Nat.mul_le_mul_right _ (Nat.le_of_lt_succ less)

end WatchTime

/-! ## Looks at the jobs -/

section

variable {a : AgentRef} {interval : Duration}

@[simp] theorem lookPlan_zero : lookPlan a interval 0 = [] := rfl

@[simp] theorem lookPlan_one : lookPlan a interval 1 = [.agent a .getState] := rfl

theorem lookPlan_succ_succ (looks : Nat) : lookPlan a interval (looks + 2)
    = .agent a .getState :: .sleep interval :: lookPlan a interval (looks + 1) := rfl

/-- The looks of a plan are an interval apart. -/
theorem lookTimes_lookPlan (clock : Duration) (looks : Nat) :
    lookTimes a clock (lookPlan a interval looks)
      = (List.range looks).map fun before => ⟨clock.nanos + before * interval.nanos⟩ := by
  induction looks generalizing clock with
  | zero => rfl
  | succ looks ih =>
    cases looks with
    | zero => simp [lookTimes]
    | succ looks =>
      rw [lookPlan_succ_succ, lookTimes, if_pos rfl, lookTimes, ih,
        List.range_succ_eq_map (n := looks + 1), List.map_cons, List.map_map, Nat.zero_mul]
      refine congrArg _ (List.map_congr_left fun before _ => ?_)
      simp only [Function.comp_apply, Duration.nanos_add, Nat.succ_mul]
      congr 1
      omega

/-- The first look comes at the start of the window. -/
theorem lookTimes_watchPlan {job : String} {index : UInt32} {manifest : Manifest}
    {image : StemcellApplySpec} (watch : WatchTime) (spec : ApplySpec) :
    lookTimes a .zero (watchPlan (.buildState job index manifest image) a watch interval spec)
      = (List.range (watch.looks interval)).map (watch.lookTime interval) := by
  change lookTimes a (.zero + .ofMillis watch.start.toNat)
    (lookPlan a interval (watch.looks interval)) = _
  rw [lookTimes_lookPlan]
  refine List.map_congr_left fun before _ => ?_
  simp [WatchTime.lookTime, Duration.nanos_add, Duration.zero]

end

namespace AgentVm

variable {σ : Type} {env : Environment services σ} {vm : AgentVm} {s s' : σ}
  {ms : List (Moment services σ)} {delay : Duration} {max : UInt32} {left : Nat}

/-- An agent that does not say that its jobs run is looked at once, and may be looked at again. -/
theorem failed_of_pollJobs {ended : Attempt Failure}
    (run : Program.Runs env vm.pollJobs s ms ended s')
    (unready : ∀ m ∈ ms, m.isUnready vm.agent = true) :
    asked ms = [.agent vm.agent .getState] ∧ ∃ f, ended = .failed f := by
  obtain ⟨r, s₁, _, _, rfl, polled, later⟩ := Program.runs_bind_iff.mp run
  obtain ⟨r₀, rfl, asks⟩ := Action.runs_inContext_iff.mp polled
  obtain ⟨answer, rfl, rfl, -⟩ := Action.runs_agent_iff.mp asks
  cases answer with
  | error e =>
    obtain ⟨rfl, rfl, -⟩ := Program.runs_pure_iff.mp later
    exact ⟨rfl, _, rfl⟩
  | ok state =>
    have waiting : AgentState.isRunning state = false := by
      have here := unready _ List.mem_cons_self
      simpa [Moment.isUnready] using here
    simp only [Except.mapError, waiting, Bool.false_eq_true, if_false] at later
    obtain ⟨rfl, rfl, -⟩ := Program.runs_pure_iff.mp later
    exact ⟨rfl, _, rfl⟩

/-- All looks are made that may be made at an agent that does not say that its jobs run. -/
theorem asked_of_tries {r : Except (RetryError Failure) Unit}
    (tries : Retry.Tries env max delay vm.pollJobs left s ms r s')
    (unready : ∀ m ∈ ms, m.isUnready vm.agent = true) :
    asked ms = lookPlan vm.agent delay left := by
  induction tries with
  | none => rfl
  | succeeded tried | refused tried =>
    obtain ⟨-, _, failed⟩ := failed_of_pollJobs tried unready
    cases failed
  | exhausted tried => exact (failed_of_pollJobs tried unready).1
  | again tried slept rest ih =>
    obtain ⟨early, late⟩ := List.forall_mem_append.mp unready
    have first := (failed_of_pollJobs tried early).1
    have later := ih (List.forall_mem_cons.mp late).2
    rw [asked_append, first, lookPlan_succ_succ, ← later]
    rfl

end AgentVm

namespace Instance

variable {σ : Type} {env : Environment services σ} {vm : AgentVm} {i i' : Instance} {s s' : σ}
  {ms : List (Moment services σ)} {manifest : Manifest} {image : StemcellApplySpec}

/-- What an agent is told to do it does, if it does with its jobs what it is told. -/
theorem done_of_request {request : AgentRequest} {message : String}
    {r : Except Failure request.Value}
    (run : Action.Runs env (Action.inContext message (Action.agent vm.agent request)) s ms r s')
    (does : ∀ answer : request.Answer,
      Moment.isUnready vm.agent (⟨s, .agent vm.agent request, answer⟩ : Moment services σ) = true →
        answer.isOk = true)
    (unready : ∀ m ∈ ms, m.isUnready vm.agent = true) :
    ∃ v, r = .ok v ∧ ms = [⟨s, .agent vm.agent request, (.ok v : request.Answer)⟩] := by
  obtain ⟨r₀, rfl, asks⟩ := Action.runs_inContext_iff.mp run
  obtain ⟨answer, rfl, rfl, -⟩ := Action.runs_agent_iff.mp asks
  obtain ⟨v, rfl⟩ := Result.eq_ok_of_isOk (does answer (unready _ List.mem_cons_self))
  exact ⟨v, rfl, rfl⟩

/-- An agent that does what it is told stops, takes what it is to run, and starts. -/
theorem started_of_unready (driven : i.vm = .ofAgent vm) {spec : ApplySpec}
    {r : Except Failure Unit} (run : Action.Runs env (i.pushState spec) s ms r s')
    (unready : ∀ m ∈ ms, m.isUnready vm.agent = true) :
    r = .ok () ∧ asked ms =
      [.agent vm.agent .stop, .agent vm.agent (.apply spec), .agent vm.agent .start] := by
  obtain ⟨s₁, inner, s₂, noted, ran⟩ := Action.runs_step_iff.mp run
  have willing := noted.unready unready
  simp only [driven] at ran
  rcases Action.runs_bind_iff.mp ran with ⟨_, rfl, stops⟩ | ⟨_, s₃, _, _, rfl, stops, later⟩
  · obtain ⟨_, failed, -⟩ := done_of_request stops (by simp [Moment.isUnready]) willing
    cases failed
  obtain ⟨stopping, behind⟩ := List.forall_mem_append.mp willing
  obtain ⟨_, -, rfl⟩ := done_of_request stops (by simp [Moment.isUnready]) stopping
  rcases Action.runs_bind_iff.mp later with ⟨_, rfl, applies⟩ | ⟨_, s₄, _, _, rfl, applies, starts⟩
  · obtain ⟨_, failed, -⟩ := done_of_request applies (by simp [Moment.isUnready]) behind
    cases failed
  obtain ⟨applying, starting⟩ := List.forall_mem_append.mp behind
  obtain ⟨_, -, rfl⟩ := done_of_request applies (by simp [Moment.isUnready]) applying
  obtain ⟨_, rfl, rfl⟩ := done_of_request starts (by simp [Moment.isUnready]) starting
  exact ⟨rfl, noted.asked⟩

/-- Behind the start of the window come all looks that may be made. -/
theorem asked_of_waitForJobs (driven : i.vm = .ofAgent vm) {watch : WatchTime}
    (positive : i.settings.jobsPollInterval.toMillis ≠ 0) {r : Except Failure Unit}
    (run : Action.Runs env (i.waitForJobs watch) s ms r s')
    (unready : ∀ m ∈ ms, m.isUnready vm.agent = true) :
    asked ms = .sleep (.ofMillis watch.start.toNat) ::
      lookPlan vm.agent i.settings.jobsPollInterval (watch.looks i.settings.jobsPollInterval) := by
  unfold waitForJobs at run
  dsimp only at run
  split at run
  · rename_i refused
    unfold watchAttempts at refused
    dsimp only at refused
    rw [if_neg positive] at refused
    cases refused
  rename_i attempts counted
  obtain ⟨s₁, inner, s₂, noted, ran⟩ := Action.runs_step_iff.mp run
  have waiting := noted.unready unready
  rw [noted.asked]
  rcases Action.runs_bind_iff.mp ran with ⟨_, _, sleeps⟩ | ⟨_, s₃, _, looks, rfl, sleeps, waits⟩
  · obtain ⟨_, failed, -⟩ := Action.runs_lift_iff.mp sleeps
    cases failed
  obtain ⟨_, -, slept⟩ := Action.runs_lift_iff.mp sleeps
  obtain ⟨rfl, -⟩ := Retry.runs_sleep_iff.mp slept
  rw [driven] at waits
  obtain ⟨_, -, waits⟩ := Action.runs_inContext_iff.mp waits
  obtain ⟨_, -, tries⟩ := Action.runs_ofResult_iff.mp waits
  have looked := AgentVm.asked_of_tries (Retry.runs_attemptsLeft_iff.mp tries)
    (List.forall_mem_append.mp waiting).2
  rw [asked_append, looked, (toNat_of_watchAttempts counted).2]
  rfl

/-- What is asked to bring the jobs of an instance up, if its agent does what it is told and does
not say that they run. -/
theorem asked_of_unready (driven : i.vm = .ofAgent vm)
    (allowed : i.lifecycle.canMoveTo .convergingJobs = true)
    (positive : i.settings.jobsPollInterval.toMillis ≠ 0) {r : Except Failure Unit}
    (run : InstanceAction.Runs env (updateJobs manifest image) i s ms r i' s')
    (unready : ∀ m ∈ ms, m.isUnready vm.agent = true) :
    ∃ spec, asked ms = watchPlan (.buildState i.job i.index manifest image) vm.agent
      manifest.update.updateWatchTime i.settings.jobsPollInterval spec := by
  rw [updateJobs_eq, InstanceAction.runs_enter_iff, if_pos allowed] at run
  obtain ⟨ran, -⟩ := (InstanceAction.runs_leave_iff rfl).mp run
  rcases Action.runs_bind_iff.mp ran with ⟨_, _, builds⟩ | ⟨state, s₁, _, _, rfl, builds, later⟩
  · obtain ⟨built, failed, builds⟩ := Action.runs_inContext_iff.mp builds
    obtain ⟨rfl, -⟩ := Program.runs_question_iff.mp builds
    obtain ⟨_, rfl⟩ := Result.eq_ok_of_isOk (unready _ List.mem_cons_self)
    cases failed
  obtain ⟨rfl, -⟩ := Program.runs_question_iff.mp (Action.runs_inContext_ok_iff.mp builds)
  obtain ⟨-, behind⟩ := List.forall_mem_append.mp unready
  rcases Action.runs_bind_iff.mp later with ⟨_, _, pushes⟩ | ⟨_, s₂, _, _, rfl, pushes, waits⟩
  · obtain ⟨started, -⟩ := started_of_unready driven pushes behind
    cases started
  obtain ⟨pushing, waiting⟩ := List.forall_mem_append.mp behind
  obtain ⟨-, started⟩ := started_of_unready driven pushes pushing
  have watched := asked_of_waitForJobs driven positive waits waiting
  refine ⟨state.applySpec, ?_⟩
  rw [asked_append, asked_append, started, watched]
  rfl

/-- Jobs that were started and do not come to run are watched for as many intervals as fit into the
window, where an interval counts its whole milliseconds. -/
theorem watches_of_unready (driven : i.vm = .ofAgent vm)
    (allowed : i.lifecycle.canMoveTo .convergingJobs = true)
    (positive : 1 ≤ i.settings.jobsPollInterval.toMillis) {r : Except Failure Unit}
    (run : InstanceAction.Runs env (updateJobs manifest image) i s ms r i' s')
    (unready : ∀ m ∈ ms, m.isUnready vm.agent = true) :
    Watches (.buildState i.job i.index manifest image) vm.agent manifest.update.updateWatchTime
      i.settings.jobsPollInterval ms := by
  have counts : i.settings.jobsPollInterval.toMillis ≠ 0 := Nat.one_le_iff_ne_zero.mp positive
  obtain ⟨spec, all⟩ := asked_of_unready driven allowed counts run unready
  have times := congrArg (lookTimes vm.agent .zero) all
  rw [lookTimes_watchPlan] at times
  refine ⟨⟨spec, all⟩, times, ?_, WatchTime.fitting_le_looks counts,
    WatchTime.looks_overrun counts, fun whole => ?_⟩
  · rw [times]
    exact WatchTime.lookTimes_le_iff
  · obtain ⟨exact, fit⟩ := WatchTime.looks_of_whole whole
    exact ⟨exact, times ▸ WatchTime.lookTimes_le_iff.mpr fit⟩

/-- The director, looking at its jobs so often. -/
def directorPolling (interval : Duration) : Instance :=
  { director with settings := { director.settings with jobsPollInterval := interval } }

/-- An update of its jobs that do not come to run. -/
def unreadyUpdate (finish : UInt64) (interval : Duration) :
    ServiceProgram (Except Failure Unit × Instance) :=
  (updateJobs (watchedFor finish) ⟨⟨"", []⟩, []⟩).run.run (directorPolling interval)

/-- What happens in it. -/
def unreadyMoments (finish : UInt64) (interval : Duration) : List (Moment services Unit) :=
  (unreadyUpdate finish interval).trace (repeating "failing") ()

theorem runs_unreadyUpdate (finish : UInt64) (interval : Duration) :
    InstanceAction.Runs (Program.ofHandler (repeating "failing"))
      (updateJobs (watchedFor finish) ⟨⟨"", []⟩, []⟩) (directorPolling interval) ()
      (unreadyMoments finish interval)
      ((unreadyUpdate finish interval).run (repeating "failing") ()).1.1
      ((unreadyUpdate finish interval).run (repeating "failing") ()).1.2 () :=
  Program.runs_ofHandler (repeating "failing") (unreadyUpdate finish interval) ()

theorem watches_of_unready_director :
    (directorPolling ⟨2500000⟩).vm = .ofAgent directorVm ∧
      (∀ m ∈ unreadyMoments 10 ⟨2500000⟩, m.isUnready directorVm.agent = true) ∧
      Watches (.buildState "director" 0 (watchedFor 10) ⟨⟨"", []⟩, []⟩) directorVm.agent ⟨0, 10⟩
        ⟨2500000⟩ (unreadyMoments 10 ⟨2500000⟩) := by
  have unready : ∀ m ∈ unreadyMoments 10 ⟨2500000⟩, m.isUnready directorVm.agent = true := by
    decide +kernel
  exact ⟨rfl, unready, watches_of_unready rfl rfl (by decide)
    (runs_unreadyUpdate 10 ⟨2500000⟩) unready⟩

/-- Jobs may be looked at more often than intervals fit into their window, and behind its end. -/
theorem looked_too_often :
    ¬ ∀ (env : Environment services Unit) (i i' : Instance) (vm : AgentVm) (manifest : Manifest)
      (image : StemcellApplySpec) (ms : List (Moment services Unit)) (r : Except Failure Unit),
      i.vm = .ofAgent vm → i.lifecycle.canMoveTo .convergingJobs = true →
        1 ≤ i.settings.jobsPollInterval.toMillis →
          InstanceAction.Runs env (updateJobs manifest image) i () ms r i' () →
            (∀ m ∈ ms, m.isUnready vm.agent = true) →
              lookTimes vm.agent .zero (asked ms)
                  = (List.range (manifest.update.updateWatchTime.fitting
                      i.settings.jobsPollInterval)).map
                    (manifest.update.updateWatchTime.lookTime i.settings.jobsPollInterval) ∧
                ∀ time ∈ lookTimes vm.agent .zero (asked ms),
                  time ≤ .ofMillis manifest.update.updateWatchTime.finish.toNat := by
  intro claim
  have unready : ∀ m ∈ unreadyMoments 3 ⟨1999999⟩, m.isUnready directorVm.agent = true := by
    decide +kernel
  obtain ⟨times, -⟩ := claim _ _ _ directorVm _ _ _ _ rfl rfl (by decide)
    (runs_unreadyUpdate 3 ⟨1999999⟩) unready
  obtain ⟨spec, all⟩ :=
    asked_of_unready rfl rfl (by decide) (runs_unreadyUpdate 3 ⟨1999999⟩) unready
  rw [all, lookTimes_watchPlan] at times
  exact absurd (congrArg List.length times) (by decide +kernel)

end Instance

end VmDeploy
