import VmDeploy.Proofs.Instance.Operations
import VmDeploy.Proofs.Retry.Attempts
import VmDeploy.Proofs.Services.Calls
import VmDeploy.Vm.Agent

/-!
# Jobs that run

On what evidence an instance is taken to be running whose VM is driven through cloud and agent.
An agent is looked at as often as whole polling intervals fit into the watch window, and the
wait succeeds when it says that its jobs run.

Where no interval fits into the window, because it is shorter, empty or ends before it starts,
the agent is not looked at, and no attempt is a success. So the jobs were seen running exactly
if one interval fits (`seenRunning_iff`); otherwise an instance is running whatever its agent
would have said (`running_unseen`).
-/

set_option autoImplicit false

namespace VmDeploy

/-- What an agent said of its jobs, if a moment is such a reply. -/
def Moment.jobState? {σ : Type} (a : AgentRef) : Moment services σ → Option AgentState
  | ⟨_, .agent b .getState, .ok state⟩ => if b = a then some state else none
  | _ => none

theorem Moment.jobState?_getState {σ : Type} (a : AgentRef) (s : σ) (state : AgentState) :
    Moment.jobState? a ⟨s, .agent a .getState, (.ok state : Except AgentError AgentState)⟩
      = some state :=
  if_pos rfl

/-- A note is no reply. -/
theorem Moment.jobState?_of_isNote {σ : Type} {a : AgentRef} (m : Moment services σ)
    (isNote : m.question.isNote = true) : m.jobState? a = none := by
  obtain ⟨s, q, answer⟩ := m
  cases q with
  | startStep _ | finishStep _ _ _ _ | warn _ _ => rfl
  | _ => cases isNote

/-- Behind the start of the jobs the agent spoke of them, and it said last that they run. -/
def SeenRunning {σ : Type} (a : AgentRef) (ms : List (Moment services σ)) : Prop :=
  ∃ before s after state, ms = before ++ ⟨s, .agent a .start, .ok ()⟩ :: after ∧
    (after.filterMap (Moment.jobState? a)).getLast? = some state ∧ state.jobState = "running"

/-- How long jobs are watched, in milliseconds. -/
def WatchTime.window (watch : WatchTime) : Nat := watch.finish.toNat - watch.start.toNat

/-- How many times jobs are looked at that do not come to run. -/
def WatchTime.looks (watch : WatchTime) (interval : Duration) : Nat :=
  min (watch.window / interval.toMillis) (UInt32.size - 1)

/-- The looks can be counted in thirty-two bits. -/
theorem toNat_of_watchAttempts {watch : WatchTime} {interval : Duration} {attempts : UInt32}
    (counted : watchAttempts watch interval = .ok attempts) :
    interval.toMillis ≠ 0 ∧ attempts.toNat = watch.looks interval := by
  unfold watchAttempts at counted
  dsimp only at counted
  split at counted
  · cases counted
  · rename_i positive
    cases counted
    have fits : watch.looks interval < UInt32.size :=
      Nat.lt_of_le_of_lt (Nat.min_le_right _ _) (by decide)
    exact ⟨positive, UInt32.toNat_ofNat_of_lt' fits⟩

/-- Some look at the jobs fits into the window exactly if it is as long as the interval. -/
theorem watchAttempts_ne_zero_iff {watch : WatchTime} {interval : Duration} {attempts : UInt32}
    (counted : watchAttempts watch interval = .ok attempts) :
    attempts.toNat ≠ 0 ↔ interval.toMillis ≤ watch.window := by
  obtain ⟨positive, looks⟩ := toNat_of_watchAttempts counted
  have some : watch.window / interval.toMillis ≠ 0 ↔ interval.toMillis ≤ watch.window := by
    rw [Nat.div_ne_zero_iff]
    exact ⟨And.right, fun le => ⟨positive, le⟩⟩
  have least : UInt32.size - 1 ≠ 0 := by decide
  rw [looks, WatchTime.looks, ← some]
  omega

namespace AgentVm

variable {σ : Type} {env : Environment services σ} {vm : AgentVm} {s s' : σ}
  {ms : List (Moment services σ)}

/-- One look at the jobs is one reply, and it succeeds if the agent says that they run. -/
theorem running_of_pollJobs
    (run : Program.Runs env vm.pollJobs s ms .succeeded s') :
    ∃ state, ms.filterMap (Moment.jobState? vm.agent) = [state] ∧ state.jobState = "running" := by
  obtain ⟨r, s₁, _, _, rfl, polled, later⟩ := Program.runs_bind_iff.mp run
  cases r with
  | error f =>
    obtain ⟨-, failed, -⟩ := Program.runs_pure_iff.mp later
    cases failed
  | ok state =>
    obtain ⟨rfl, -⟩ := Action.runs_agent_ok_iff.mp (Action.runs_inContext_ok_iff.mp polled)
    dsimp only at later
    split at later
    · rename_i running
      obtain ⟨rfl, -, -⟩ := Program.runs_pure_iff.mp later
      refine ⟨state, ?_, by simpa [AgentState.isRunning] using running⟩
      exact List.filterMap_cons_some (Moment.jobState?_getState vm.agent s state)
    · obtain ⟨-, failed, -⟩ := Program.runs_pure_iff.mp later
      cases failed

/-- A wait for the jobs that succeeds ends with the reply that they run, unless there was to be
no look at them. -/
theorem running_of_waitToBeRunning {attempts : UInt32} {delay : Duration}
    (run : Action.Runs env (vm.waitToBeRunning attempts delay) s ms (.ok ()) s') :
    if attempts.toNat = 0 then ms = []
    else ∃ state, (ms.filterMap (Moment.jobState? vm.agent)).getLast? = some state ∧
      state.jobState = "running" := by
  obtain ⟨answer, succeeded, tries⟩ :=
    Action.runs_ofResult_iff.mp (Action.runs_inContext_ok_iff.mp run)
  cases Result.mapError_eq_ok.mp succeeded.symm
  have tries := Retry.runs_attemptsLeft_iff.mp tries
  split
  · rename_i none
    rw [none] at tries
    exact tries.eq_of_zero.1
  · rename_i some
    obtain ⟨before, s₁, last, rfl, looked⟩ := tries.last some
    obtain ⟨state, reply, running⟩ := running_of_pollJobs looked
    exact ⟨state, by simp [List.filterMap_append, reply], running⟩

end AgentVm

namespace Instance

variable {σ : Type} {env : Environment services σ} {vm : AgentVm} {i i' : Instance} {s s' : σ}
  {ms : List (Moment services σ)} {manifest : Manifest} {image : StemcellApplySpec}

/-- What is done to bring the jobs of an instance to what the manifest says. -/
def jobWork (i : Instance) (manifest : Manifest) (image : StemcellApplySpec) : Action Unit := do
  let state ← Action.inContext s!"Building state for instance '{i.slot}'"
    (Services.buildState i.job i.index manifest image)
  i.pushState state.applySpec
  i.waitForJobs manifest.update.updateWatchTime

/-- Between the two moves of an update of the jobs stands the work. -/
theorem updateJobs_eq :
    updateJobs manifest image = (do
      move .convergingJobs
      let i ← getThe Instance
      act (i.jobWork manifest image)
      move .running) := by
  unfold updateJobs jobWork
  refine congrArg _ (funext fun _ => congrArg _ (funext fun i => ?_))
  simp only [act_bind, bind_assoc]

/-- The agent starts the jobs when it has been told what to run, and was not asked of them. -/
theorem started_of_pushState (driven : i.vm = .ofAgent vm) {spec : ApplySpec}
    (run : Action.Runs env (i.pushState spec) s ms (.ok ()) s') :
    ms.filterMap (Moment.jobState? vm.agent) = [] ∧
      ∃ before s₀ after, ms = before ++ ⟨s₀, .agent vm.agent .start, .ok ()⟩ :: after := by
  obtain ⟨s₁, inner, s₂, ⟨_, _⟩, ran⟩ := Action.runs_step_iff.mp run
  simp only [Action.runs_bind_ok_iff, driven] at ran
  obtain ⟨_, _, _, _, rfl, stops, _, s₀, _, _, rfl, applies, starts⟩ := ran
  obtain ⟨rfl, -⟩ := Action.runs_agent_ok_iff.mp (Action.runs_inContext_ok_iff.mp stops)
  obtain ⟨rfl, -⟩ := Action.runs_agent_ok_iff.mp (Action.runs_inContext_ok_iff.mp applies)
  obtain ⟨rfl, -⟩ := Action.runs_agent_ok_iff.mp (Action.runs_inContext_ok_iff.mp starts)
  exact ⟨rfl, [_, _, _], s₀, [_], rfl⟩

/-- The wait for the jobs ends with the reply that they run, unless the window is too short for a
look at them. -/
theorem running_of_waitForJobs (driven : i.vm = .ofAgent vm) {watch : WatchTime}
    (run : Action.Runs env (i.waitForJobs watch) s ms (.ok ()) s') :
    if i.settings.jobsPollInterval.toMillis ≤ watch.window then
      ∃ state, (ms.filterMap (Moment.jobState? vm.agent)).getLast? = some state ∧
        state.jobState = "running"
    else ms.filterMap (Moment.jobState? vm.agent) = [] := by
  unfold waitForJobs at run
  dsimp only at run
  split at run
  · obtain ⟨-, failed, -⟩ := Action.runs_throw_iff.mp run
    cases failed
  · rename_i attempts counted
    obtain ⟨s₁, inner, s₂, noted, ran⟩ := Action.runs_step_iff.mp run
    obtain ⟨_, s₃, _, looks, rfl, sleeps, waits⟩ := Action.runs_bind_ok_iff.mp ran
    obtain ⟨_, -, slept⟩ := Action.runs_lift_iff.mp sleeps
    obtain ⟨rfl, -⟩ := Retry.runs_sleep_iff.mp slept
    rw [driven] at waits
    have seen := AgentVm.running_of_waitToBeRunning waits
    rw [noted.filterMap Moment.jobState?_of_isNote, List.filterMap_append,
      List.filterMap_cons_none rfl, List.filterMap_nil, List.nil_append]
    split
    · rename_i fits
      rwa [if_neg ((watchAttempts_ne_zero_iff counted).mpr fits)] at seen
    · rename_i short
      rw [if_pos (Decidable.not_not.mp (short ∘ (watchAttempts_ne_zero_iff counted).mp))] at seen
      rw [seen]
      rfl

/-- Where an agent says nothing of its jobs it says nothing of them behind some moment either. -/
theorem silent_behind {a : AgentRef} {before after : List (Moment services σ)}
    {m : Moment services σ} (here : ms = before ++ m :: after)
    (silent : ms.filterMap (Moment.jobState? a) = []) :
    after.filterMap (Moment.jobState? a) = [] := by
  rw [List.filterMap_eq_nil_iff] at silent ⊢
  exact fun m' mem => silent m' (by simp [here, mem])

/-- An update of the jobs that succeeds has the instance running, and its jobs were seen running
exactly if the watch window has room for one polling interval. -/
theorem seenRunning_iff (driven : i.vm = .ofAgent vm)
    (run : InstanceAction.Runs env (updateJobs manifest image) i s ms (.ok ()) i' s') :
    i' = i.movedTo .running ∧
      (SeenRunning vm.agent ms ↔
        i.settings.jobsPollInterval.toMillis ≤ manifest.update.updateWatchTime.window) := by
  rw [updateJobs_eq, InstanceAction.runs_enter_iff] at run
  split at run
  · obtain ⟨ran, moved⟩ := (InstanceAction.runs_leave_iff rfl).mp run
    refine ⟨moved, ?_⟩
    obtain ⟨state, s₁, build, _, rfl, builds, later⟩ := Action.runs_bind_ok_iff.mp ran
    obtain ⟨_, s₂, push, looks, rfl, pushes, waits⟩ := Action.runs_bind_ok_iff.mp later
    have unasked : build.filterMap (Moment.jobState? vm.agent) = [] := by
      rw [(Program.runs_question_iff.mp (Action.runs_inContext_ok_iff.mp builds)).1]
      rfl
    obtain ⟨silent, before, s₀, after, pushed⟩ := started_of_pushState driven pushes
    have seen := running_of_waitForJobs driven waits
    change if i.settings.jobsPollInterval.toMillis ≤ _ then _ else _ at seen
    split at seen
    · rename_i fits
      obtain ⟨state, last, running⟩ := seen
      refine iff_of_true ⟨build ++ before, s₀, after ++ looks, state, ?_, ?_, running⟩ fits
      · simp [pushed]
      · rwa [List.filterMap_append, silent_behind pushed silent, List.nil_append]
    · rename_i short
      refine iff_of_false ?_ short
      rintro ⟨front, s₃, rest, state, same, last, -⟩
      have whole : (build ++ (push ++ looks)).filterMap (Moment.jobState? vm.agent) = [] := by
        rw [List.filterMap_append, List.filterMap_append, unasked, silent, seen]
        rfl
      rw [silent_behind same whole] at last
      cases last
  · obtain ⟨-, failed, -⟩ := run
    cases failed

/-- A VM to look at. -/
def directorVm : AgentVm := ⟨⟨"vm-director", by decide⟩, ⟨"agent", 0⟩⟩

/-- An instance that awaited its agent, and looks at its jobs every second. -/
def director : Instance := ⟨"director", 0, .ofAgent directorVm, {}, .awaitingAgent⟩

/-- A manifest whose jobs are watched for so many milliseconds. -/
def watchedFor (finish : UInt64) : Manifest := ⟨"bosh", [], [], ⟨⟨0, finish⟩⟩⟩

/-- Services with an agent that always says the same of its jobs. -/
def repeating (said : String) : Program.Handler services Unit
  | .agent _ .getState, _ => (Except.ok (ε := AgentError) (AgentState.mk said), ())
  | .buildState _ _ _ _, _ => (Except.ok (ε := Failure) (default : DesiredState), ())
  | q, _ => (q.plainAnswer, ())

/-- The update of the jobs of the director. -/
def directorUpdate (finish : UInt64) : ServiceProgram (Except Failure Unit × Instance) :=
  (updateJobs (watchedFor finish) ⟨⟨"", []⟩, []⟩).run.run director

/-- An update that succeeds is a run in which the agent answers as it does. -/
theorem runs_directorUpdate {said : String} {finish : UInt64}
    (succeeded : ((directorUpdate finish).run (repeating said) ()).1.1.isOk = true) :
    InstanceAction.Runs (Program.ofHandler (repeating said))
      (updateJobs (watchedFor finish) ⟨⟨"", []⟩, []⟩) director ()
      ((directorUpdate finish).trace (repeating said) ()) (.ok ())
      ((directorUpdate finish).run (repeating said) ()).1.2 () := by
  obtain ⟨_, ended⟩ := Result.eq_ok_of_isOk succeeded
  have run := Program.runs_ofHandler (repeating said) (directorUpdate finish) ()
  rw [← Prod.eta ((directorUpdate finish).run (repeating said) ()).1, ended] at run
  exact run

theorem seenRunning_iff_director :
    director.vm = .ofAgent directorVm ∧
      ((directorUpdate 5000).run (repeating "running") ()).1.1.isOk = true ∧
      ((directorUpdate 5000).run (repeating "running") ()).1.2 = director.movedTo .running ∧
      (SeenRunning directorVm.agent ((directorUpdate 5000).trace (repeating "running") ()) ↔
        1000 ≤ 5000) := by
  have succeeded : ((directorUpdate 5000).run (repeating "running") ()).1.1.isOk = true := by
    decide +kernel
  exact ⟨rfl, succeeded, seenRunning_iff rfl (runs_directorUpdate succeeded)⟩

/-- An instance may be running whose agent was never looked at, and would have said that its jobs
fail. -/
theorem running_unseen :
    ¬ ∀ (env : Environment services Unit) (i i' : Instance) (vm : AgentVm) (manifest : Manifest)
      (image : StemcellApplySpec) (ms : List (Moment services Unit)), i.vm = .ofAgent vm →
        1 ≤ i.settings.jobsPollInterval.toMillis →
          InstanceAction.Runs env (updateJobs manifest image) i () ms (.ok ()) i' () →
            SeenRunning vm.agent ms := by
  intro claim
  have succeeded : ((directorUpdate 500).run (repeating "failing") ()).1.1.isOk = true := by
    decide +kernel
  obtain ⟨before, s, after, state, here, last, -⟩ :=
    claim _ _ _ directorVm _ _ _ rfl (by decide) (runs_directorUpdate succeeded)
  have silent : ((directorUpdate 500).trace (repeating "failing") ()).filterMap
      (Moment.jobState? directorVm.agent) = [] := by
    decide +kernel
  rw [silent_behind here silent] at last
  cases last

end Instance

end VmDeploy
