import VmDeploy.Proofs.Services.Questions
import VmDeploy.Proofs.Vm.Calls
import VmDeploy.Vm.Agent

/-!
# What VMs have deleted

A VM is confined if nothing that it is asked, short of a change of its disk, has anything deleted
but VMs. Both kinds of VM are: the one that somebody else drives passes on what it is asked, and
the one that works through cloud and agent has the cloud delete the VM alone.

A change of the disk is left out because a disk whose record cannot be saved is deleted again.
-/

set_option autoImplicit false

namespace VmDeploy

open ServiceQuestion (DeletesOnly)

namespace Retry

variable {ε : Type} {P : ServiceQuestion → Prop} {attempt : ServiceProgram (Attempt ε)}
  {delay : Duration}

/-- Attempts up to a deadline ask what one attempt asks, look at the clock and sleep. -/
theorem asks_untilTimeout (clock : P .now) (sleeps : P (.sleep delay)) (asks : attempt.Asks P)
    (timeout : Duration) : (untilTimeout timeout delay attempt).Asks P := by
  have once {started deadline : Duration} {left : Nat} {made : UInt32}
      (next : ∀ left', left = left' + 1 →
        (untilDeadlineFrom started deadline delay attempt left' (made + 1)).Asks P) :
      (untilDeadlineFrom started deadline delay attempt left made).Asks P := by
    rw [untilDeadlineFrom]
    refine asks.bind ?_
    rintro (_ | e | e)
    · exact .pure
    · refine .bind (.question (I := services) clock) fun now => ?_
      split
      · exact .pure
      · refine .bind (.question (I := services) sleeps) fun _ => ?_
        cases left with
        | zero => exact .pure
        | succ left => exact next left rfl
    · exact .pure
  have later (started deadline : Duration) (left : Nat) (made : UInt32) :
      (untilDeadlineFrom started deadline delay attempt left made).Asks P := by
    induction left generalizing made with
    | zero => exact once nofun
    | succ left ih =>
      refine once fun left' same => ?_
      cases same
      exact ih _
  exact .bind (.question (I := services) clock) fun started => later _ _ _ _

/-- A number of attempts ask what one attempt asks, and sleep. -/
theorem asks_attempts (sleeps : P (.sleep delay)) (asks : attempt.Asks P) (max : UInt32) :
    (attempts max delay attempt).Asks P := by
  suffices ∀ left, (attemptsLeft max delay attempt left).Asks P from this _
  intro left
  induction left with
  | zero => exact .pure
  | succ left ih =>
    rw [attemptsLeft]
    refine asks.bind ?_
    rintro (_ | e | e)
    · exact .pure
    · cases left with
      | zero => exact .pure
      | succ left => exact .bind (.question (I := services) sleeps) fun _ => ih
    · exact .pure

end Retry

namespace Vm

/-- Short of a change of its disk, a VM has nothing deleted but VMs. -/
def Confined (vm : Vm) : Prop :=
  ∀ request : VmRequest, (∀ pool, request ≠ .updateDisks pool) →
    Action.Asks (DeletesOnly .vm) (vm.perform request)

/-- A VM that somebody else drives is confined. -/
theorem confined_remote (cid : VmCid) (ref : VmRef) : (Vm.remote cid ref).Confined := by
  intro request _
  rw [perform_remote]
  have here : DeletesOnly .vm (.vm ref request) := by
    cases request with
    | delete => exact .of_some rfl
    | _ => exact .of_none rfl
  exact Program.Asks.question (I := services) here

end Vm

namespace AgentVm

variable {kind : Resource} {P : ServiceQuestion → Prop} (vm : AgentVm)

theorem asks_ping (here : P (.agent vm.agent .ping)) : vm.ping.Asks P := by
  refine .bind (Action.Asks.inContext (.agent here)) ?_
  rintro (f | pong) <;> exact .pure

theorem asks_pollJobs (here : P (.agent vm.agent .getState)) : vm.pollJobs.Asks P := by
  refine .bind (Action.Asks.inContext (.agent here)) ?_
  rintro (f | state)
  · exact .pure
  · dsimp only
    split <;> exact .pure

/-- The disks of an agent are looked up in the registry, and those without a record are noted. -/
theorem asks_disks : Action.Asks (DeletesOnly kind) vm.disks := by
  refine .bind (.inContext (.agent (.of_none rfl))) fun cids => .mapM fun cid => ?_
  refine .bind (.bind (.inContext (.registry (.of_none rfl))) fun _ => .pure) ?_
  rintro (_ | disk)
  · refine .bind (.warn fun _ => .of_isNote) fun _ => .bind (.lift ?_) fun _ => .pure
    exact .question (I := services) (.of_none rfl)
  · exact .pure

/-- A VM that is driven through cloud and agent is confined. -/
theorem confined : (Vm.ofAgent vm).Confined := by
  intro request same
  cases request with
  | «exists» => exact .inContext (.cloud (.of_none rfl))
  | waitUntilReady timeout delay =>
    exact .inContext (.ofResult
      (Retry.asks_untilTimeout (.of_none rfl) (.of_none rfl) (vm.asks_ping (.of_none rfl)) timeout))
  | updateDisks pool => exact absurd rfl (same pool)
  | stop | apply _ | start | unmountDisk _ => exact .agent (.of_none rfl)
  | waitToBeRunning attempts delay =>
    exact .inContext (.ofResult
      (Retry.asks_attempts (.of_none rfl) (vm.asks_pollJobs (.of_none rfl)) attempts))
  | attachDisk disk =>
    exact .bind (.inContext (.cloud (.of_none rfl))) fun _ => .inContext (.agent (.of_none rfl))
  | detachDisk disk => exact .inContext (.cloud (.of_none rfl))
  | disks => exact vm.asks_disks
  | delete => exact .cloud (.of_some rfl)

end AgentVm

end VmDeploy
