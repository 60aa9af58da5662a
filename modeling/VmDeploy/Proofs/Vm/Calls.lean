import VmDeploy.Proofs.Services.Actions
import VmDeploy.Vm.Basic

/-!
# Calls of a VM

What an operation asks of its VM, whatever the VM is. A VM is what can be done with it, so a
call may be any action, with any number of moments of its own; `Vm.Calls` tells which moments
are calls and which are notes between them. For a VM that somebody else drives a call is one
moment, and the calls can be read off the moments (`Vm.Calls.eq_filterMap`).

`Vm.Does` says that every run of an action consists of calls of which something holds, together
with its result. There is one law for each way to build an action.
-/

set_option autoImplicit false

namespace VmDeploy

/-- A call of a VM: what it was asked and what came back. -/
structure VmCall where
  request : VmRequest
  answer : Except Failure request.Value

/-- The call of a VM that somebody else drives, if a moment is one. -/
def Moment.vmCall? {σ : Type} : Moment services σ → Option VmCall
  | ⟨_, .vm _ request, answer⟩ => some ⟨request, answer⟩
  | _ => none

namespace Vm

variable {σ α β : Type} {env : Environment services σ} {vm : Vm} {s s₁ s' : σ}
  {ms ms₁ ms₂ : List (Moment services σ)} {calls calls₁ calls₂ : List VmCall}

/-- Does what a VM is asked. -/
def perform (vm : Vm) : (request : VmRequest) → Action request.Value
  | .exists => vm.exists?
  | .waitUntilReady timeout delay => vm.waitUntilReady timeout delay
  | .updateDisks pool => vm.updateDisks pool
  | .stop => vm.stop
  | .apply spec => vm.apply spec
  | .start => vm.start
  | .waitToBeRunning maxAttempts delay => vm.waitToBeRunning maxAttempts delay
  | .attachDisk disk => vm.attachDisk disk
  | .detachDisk disk => vm.detachDisk disk
  | .disks => vm.disks
  | .unmountDisk disk => vm.unmountDisk disk
  | .delete => vm.delete

/-- A VM that somebody else drives passes on what it is asked. -/
theorem perform_remote (cid : VmCid) (ref : VmRef) (request : VmRequest) :
    (Vm.remote cid ref).perform request = Services.vm ref request := by
  cases request <;> rfl

/-- Moments that are calls of a VM, one behind the other, with notes between them. -/
inductive Calls (env : Environment services σ) (vm : Vm) :
    σ → List (Moment services σ) → List VmCall → σ → Prop
  | nil {s : σ} : Calls env vm s [] [] s
  | note {q : ServiceQuestion} {answer : q.Answer} {s s₁ s' : σ} {ms : List (Moment services σ)}
      {calls : List VmCall} (isNote : q.isNote = true) (noted : env s q answer s₁)
      (rest : Calls env vm s₁ ms calls s') :
      Calls env vm s (⟨s, q, answer⟩ :: ms) calls s'
  | call {request : VmRequest} {r : Except Failure request.Value} {s s₁ s' : σ}
      {ms₁ ms₂ : List (Moment services σ)} {calls : List VmCall}
      (made : Action.Runs env (vm.perform request) s ms₁ r s₁)
      (rest : Calls env vm s₁ ms₂ calls s') :
      Calls env vm s (ms₁ ++ ms₂) (⟨request, r⟩ :: calls) s'

namespace Calls

theorem append (first : Calls env vm s ms₁ calls₁ s₁) (second : Calls env vm s₁ ms₂ calls₂ s') :
    Calls env vm s (ms₁ ++ ms₂) (calls₁ ++ calls₂) s' := by
  induction first with
  | nil => exact second
  | note isNote noted _ ih => exact .note isNote noted (ih second)
  | call made _ ih =>
    rw [List.append_assoc]
    exact .call made (ih second)

/-- A step adds notes and no calls. -/
theorem noted {name : String} {ended : StepEnd α} {s₂ : σ}
    (noted : Noted env name ended s s₁ ms₁ s₂ s' ms) (body : Calls env vm s₁ ms₁ calls s₂) :
    Calls env vm s ms calls s' := by
  obtain ⟨started, finished⟩ := noted
  have ending : Calls env vm s₂ _ [] s' := .note rfl finished .nil
  rw [← List.append_nil calls]
  exact .note rfl started (body.append ending)

/-- The calls of a VM that somebody else drives are all that such a VM is asked. -/
theorem eq_filterMap {cid : VmCid} {ref : VmRef}
    (made : Calls env (Vm.remote cid ref) s ms calls s') :
    calls = ms.filterMap Moment.vmCall? := by
  induction made with
  | nil => rfl
  | @note q answer s _ _ _ _ isNote _ _ ih =>
    have silent : Moment.vmCall? (⟨s, q, answer⟩ : Moment services σ) = none := by
      cases q with
      | vm _ _ => cases isNote
      | _ => rfl
    rw [List.filterMap_cons_none silent]
    exact ih
  | call made _ ih =>
    rw [perform_remote] at made
    obtain ⟨rfl, -⟩ := Action.runs_vm_iff.mp made
    rw [List.filterMap_append, ← ih]
    rfl

end Calls

/-! ## Actions that call a VM -/

/-- Every run of an action consists of calls of a VM, of which something holds together with the
result. -/
def Does (env : Environment services σ) (vm : Vm) (x : Action α)
    (P : List VmCall → Except Failure α → Prop) : Prop :=
  ∀ ⦃s ms r s'⦄, Action.Runs env x s ms r s' → ∃ calls, vm.Calls env s ms calls s' ∧ P calls r

namespace Does

variable {x : Action α} {f : α → Action β} {P P' : List VmCall → Except Failure α → Prop}
  {Q : α → List VmCall → Except Failure β → Prop}

theorem mono (does : Does env vm x P) (weaker : ∀ calls r, P calls r → P' calls r) :
    Does env vm x P' := by
  intro s ms r s' run
  obtain ⟨calls, made, holds⟩ := does run
  exact ⟨calls, made, weaker calls r holds⟩

theorem perform (request : VmRequest) :
    Does env vm (vm.perform request) fun calls r => calls = [⟨request, r⟩] := by
  intro s ms r s' run
  have made : Calls env vm s (ms ++ []) [⟨request, r⟩] s' := .call run .nil
  rw [List.append_nil] at made
  exact ⟨_, made, rfl⟩

theorem pure {a : α} : Does env vm (Pure.pure a) fun calls r => calls = [] ∧ r = .ok a := by
  intro s ms r s' run
  obtain ⟨rfl, rfl, rfl⟩ := Action.runs_pure_iff.mp run
  exact ⟨[], .nil, rfl, rfl⟩

theorem warn {message : String} {error : Option String} :
    Does env vm (Action.warn message error) fun calls r => calls = [] ∧ r = .ok () := by
  intro s ms r s' run
  obtain ⟨rfl, rfl, noted⟩ := Action.runs_warn_iff.mp run
  exact ⟨[], .note rfl noted .nil, rfl, rfl⟩

/-- A sequence ends with its first part, or the calls of both parts stand behind each other. -/
theorem bind (here : Does env vm x P) (later : ∀ a, Does env vm (f a) (Q a)) :
    Does env vm (x >>= f) fun calls r =>
      (∃ e, r = .error e ∧ P calls (.error e)) ∨
        ∃ a calls₁ calls₂, calls = calls₁ ++ calls₂ ∧ P calls₁ (.ok a) ∧ Q a calls₂ r := by
  intro s ms r s' run
  rcases Action.runs_bind_iff.mp run with ⟨e, rfl, ran⟩ | ⟨a, s₁, ms₁, ms₂, rfl, ran, rest⟩
  · obtain ⟨calls, made, holds⟩ := here ran
    exact ⟨calls, made, .inl ⟨e, rfl, holds⟩⟩
  · obtain ⟨calls₁, made₁, holds₁⟩ := here ran
    obtain ⟨calls₂, made₂, holds₂⟩ := later a rest
    exact ⟨_, made₁.append made₂, .inr ⟨a, calls₁, calls₂, rfl, holds₁, holds₂⟩⟩

/-- A failure that is only looked at is no failure. -/
theorem attempt (here : Does env vm x P) :
    Does env vm (ExceptT.lift x.run : Action (Except Failure α)) fun calls r =>
      ∃ r₀, r = .ok r₀ ∧ P calls r₀ := by
  intro s ms r s' run
  obtain ⟨r₀, rfl, ran⟩ := Action.runs_lift_iff.mp run
  obtain ⟨calls, made, holds⟩ := here ran
  exact ⟨calls, made, r₀, rfl, holds⟩

theorem inContext {message : String} (here : Does env vm x P) :
    Does env vm (Action.inContext message x) fun calls r =>
      ∃ r₀, r = r₀.mapError (.context message) ∧ P calls r₀ := by
  intro s ms r s' run
  obtain ⟨r₀, rfl, ran⟩ := Action.runs_inContext_iff.mp run
  obtain ⟨calls, made, holds⟩ := here ran
  exact ⟨calls, made, r₀, rfl, holds⟩

theorem step {name : String} (here : Does env vm x P) : Does env vm (Action.step name x) P := by
  intro s ms r s' run
  obtain ⟨s₁, inner, s₂, noted, ran⟩ := Action.runs_step_iff.mp run
  obtain ⟨calls, made, holds⟩ := here ran
  exact ⟨calls, made.noted noted, holds⟩

theorem deletionStep {name : String} {type : CloudErrorType} {x : Action Unit}
    {P : List VmCall → Except Failure Unit → Prop} (here : Does env vm x P) :
    Does env vm (Action.deletionStep name type x) fun calls r =>
      ∃ r₀, r = Action.deletionEnd type r₀ ∧ P calls r₀ := by
  intro s ms r s' run
  obtain ⟨r₀, s₁, inner, s₂, rfl, noted, ran⟩ := Action.runs_deletionStep_iff.mp run
  obtain ⟨calls, made, holds⟩ := here ran
  exact ⟨calls, made.noted noted, r₀, rfl, holds⟩

end Does

end Vm

end VmDeploy
