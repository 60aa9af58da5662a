import VmDeploy.Proofs.Instance.Deletion
import VmDeploy.Proofs.Instance.Jobs

/-!
# Contacts of an instance

What the operations of an instance turn to outside it: its VM, which may be any actions, and
beside it the tunnels, the builder of states, the clock and the stage (`Vm.Contacts`).

A refusal is the failure of a move that the lifecycle does not allow. The work of an operation
makes no moves, so it refuses nothing of its own accord: a refusal that it fails with came back
from its VM or from the builder, and was handed on (`HandsOn`). There is one law for each way to
build an action, and from them one for the work of each operation.
-/

set_option autoImplicit false

namespace VmDeploy

/-- The move that was refused, inside any contexts. -/
def Failure.refusal? : Failure → Option LifecycleError
  | .lifecycle e => some e
  | .context _ source => source.refusal?
  | _ => none

/-- Whether a question goes to what an instance works with beside its VM. -/
def ServiceQuestion.isBeside : ServiceQuestion → Bool
  | .openTunnel _ | .startTunnel _ | .stopTunnel _ | .buildState _ _ _ _ | .sleep _
  | .startStep _ | .finishStep _ _ _ _ | .warn _ _ => true
  | _ => false

/-- Something outside an instance that was turned to, and what came back. -/
inductive Contact where
  | vm (call : VmCall)
  | service (question : ServiceQuestion) (answer : question.Answer)

/-- The refusal that came back, if one did. -/
def Contact.refusal? : Contact → Option LifecycleError
  | .vm ⟨_, .error f⟩ => f.refusal?
  | .service (.buildState _ _ _ _) (.error f) => f.refusal?
  | _ => none

/-- A refusal with which something failed came back from a contact. -/
def HandedOn {α : Type} (contacts : List Contact) (r : Except Failure α) : Prop :=
  ∀ f e, r = .error f → f.refusal? = some e → ∃ c ∈ contacts, c.refusal? = some e

namespace Vm

variable {σ α β : Type} {env : Environment services σ} {vm : Vm} {s s₁ s' : σ}
  {ms ms₁ ms₂ : List (Moment services σ)} {contacts contacts₁ contacts₂ : List Contact}

/-- Moments that are calls of a VM and questions beside it, one behind the other. -/
inductive Contacts (env : Environment services σ) (vm : Vm) :
    σ → List (Moment services σ) → List Contact → σ → Prop
  | nil {s : σ} : Contacts env vm s [] [] s
  | call {request : VmRequest} {r : Except Failure request.Value} {s s₁ s' : σ}
      {ms₁ ms₂ : List (Moment services σ)} {contacts : List Contact}
      (made : Action.Runs env (vm.perform request) s ms₁ r s₁)
      (rest : Contacts env vm s₁ ms₂ contacts s') :
      Contacts env vm s (ms₁ ++ ms₂) (.vm ⟨request, r⟩ :: contacts) s'
  | ask {q : ServiceQuestion} {answer : q.Answer} {s s₁ s' : σ} {ms : List (Moment services σ)}
      {contacts : List Contact} (beside : q.isBeside = true) (answered : env s q answer s₁)
      (rest : Contacts env vm s₁ ms contacts s') :
      Contacts env vm s (⟨s, q, answer⟩ :: ms) (.service q answer :: contacts) s'

theorem Contacts.append (first : Contacts env vm s ms₁ contacts₁ s₁)
    (second : Contacts env vm s₁ ms₂ contacts₂ s') :
    Contacts env vm s (ms₁ ++ ms₂) (contacts₁ ++ contacts₂) s' := by
  induction first with
  | nil => exact second
  | call made _ ih =>
    rw [List.append_assoc]
    exact .call made (ih second)
  | ask beside answered _ ih => exact .ask beside answered (ih second)

/-- A step adds its notes. -/
theorem Contacts.noted {name : String} {ended : StepEnd α} {s₂ : σ}
    (noted : Noted env name ended s s₁ ms₁ s₂ s' ms)
    (body : Contacts env vm s₁ ms₁ contacts₁ s₂) :
    ∃ contacts, Contacts env vm s ms contacts s' ∧ contacts₁ ⊆ contacts := by
  obtain ⟨started, finished⟩ := noted
  have ending : Contacts env vm s₂ _ _ s' := .ask rfl finished .nil
  refine ⟨_, .ask rfl started (body.append ending), fun c mem => ?_⟩
  exact List.mem_cons_of_mem _ (List.mem_append_left _ mem)

/-- Every run of a program consists of contacts, of which something holds together with its
value. -/
def Meets (env : Environment services σ) (vm : Vm) (p : ServiceProgram α)
    (P : List Contact → α → Prop) : Prop :=
  ∀ ⦃s ms a s'⦄, Program.Runs env p s ms a s' →
    ∃ contacts, vm.Contacts env s ms contacts s' ∧ P contacts a

namespace Meets

variable {p : ServiceProgram α} {f : α → ServiceProgram β} {P P' : List Contact → α → Prop}
  {Q : α → List Contact → β → Prop}

theorem mono (meets : Meets env vm p P) (weaker : ∀ contacts a, P contacts a → P' contacts a) :
    Meets env vm p P' := by
  intro s ms a s' run
  obtain ⟨contacts, met, holds⟩ := meets run
  exact ⟨contacts, met, weaker contacts a holds⟩

theorem pure {a : α} : Meets env vm (Pure.pure a) fun contacts b => contacts = [] ∧ b = a := by
  intro s ms b s' run
  obtain ⟨rfl, rfl, rfl⟩ := Program.runs_pure_iff.mp run
  exact ⟨[], .nil, rfl, rfl⟩

theorem bind (here : Meets env vm p P) (later : ∀ a, Meets env vm (f a) (Q a)) :
    Meets env vm (p >>= f) fun contacts b =>
      ∃ a contacts₁ contacts₂, contacts = contacts₁ ++ contacts₂ ∧ P contacts₁ a ∧
        Q a contacts₂ b := by
  intro s ms b s' run
  obtain ⟨a, s₁, ms₁, ms₂, rfl, ran, rest⟩ := Program.runs_bind_iff.mp run
  obtain ⟨contacts₁, met₁, holds₁⟩ := here ran
  obtain ⟨contacts₂, met₂, holds₂⟩ := later a rest
  exact ⟨_, met₁.append met₂, a, contacts₁, contacts₂, rfl, holds₁, holds₂⟩

/-- A question beside the VM is one contact. -/
theorem question {q : ServiceQuestion} (beside : q.isBeside = true) :
    Meets env vm (Program.question (I := services) q) fun contacts answer =>
      contacts = [.service q answer] := by
  intro s ms answer s' run
  obtain ⟨rfl, answered⟩ := Program.runs_question_iff.mp run
  exact ⟨_, .ask beside answered .nil, rfl⟩

end Meets

end Vm

namespace HandedOn

variable {α β : Type} {contacts contacts' : List Contact} {r : Except Failure α}
  {r' : Except Failure β}

theorem ok {a : α} : HandedOn contacts (.ok a) := by
  intro f e failed
  cases failed

/-- A failure that refuses no move hands on nothing. -/
theorem of_none {f : Failure} (none : f.refusal? = none) :
    HandedOn contacts (.error f : Except Failure α) := by
  intro g e failed refused
  cases failed
  rw [none] at refused
  cases refused

theorem of_contact {c : Contact} (here : ∀ f, r = .error f → c.refusal? = f.refusal?)
    (mem : c ∈ contacts) : HandedOn contacts r := by
  intro f e failed refused
  exact ⟨c, mem, (here f failed).trans refused⟩

theorem subset (here : HandedOn contacts r) (more : contacts ⊆ contacts') :
    HandedOn contacts' r := by
  intro f e failed refused
  obtain ⟨c, mem, came⟩ := here f e failed refused
  exact ⟨c, more mem, came⟩

/-- Something that fails in the same way hands on the same. -/
theorem of_error (here : HandedOn contacts r) (same : ∀ f, r' = .error f → r = .error f) :
    HandedOn contacts r' :=
  fun f e failed refused => here f e (same f failed) refused

theorem inContext (here : HandedOn contacts r) {message : String} :
    HandedOn contacts (r.mapError (.context message)) := by
  intro f e failed refused
  cases r with
  | ok _ => cases failed
  | error g =>
    cases failed
    exact here g e rfl refused

end HandedOn

/-- Every run of an action consists of contacts, and a refusal that it fails with came back from
one of them. -/
abbrev HandsOn {σ α : Type} (env : Environment services σ) (vm : Vm) (x : Action α) : Prop :=
  vm.Meets env x.run HandedOn

namespace HandsOn

open Vm (Meets)

variable {σ α β : Type} {env : Environment services σ} {vm : Vm} {x : Action α}
  {f : α → Action β}

theorem pure {a : α} : HandsOn env vm (Pure.pure a : Action α) := by
  refine Meets.pure.mono ?_
  rintro _ _ ⟨-, rfl⟩
  exact .ok

theorem throw {e : Failure} (none : e.refusal? = none) :
    HandsOn env vm (MonadExcept.throw e : Action α) := by
  refine Meets.pure.mono ?_
  rintro _ _ ⟨-, rfl⟩
  exact .of_none none

theorem bind (here : HandsOn env vm x) (later : ∀ a, HandsOn env vm (f a)) :
    HandsOn env vm (x >>= f) := by
  intro s ms r s' run
  rcases Action.runs_bind_iff.mp run with ⟨e, rfl, ran⟩ | ⟨a, s₁, ms₁, ms₂, rfl, ran, rest⟩
  · obtain ⟨contacts, met, handed⟩ := here ran
    exact ⟨contacts, met, handed.of_error fun _ failed => by cases failed; rfl⟩
  · obtain ⟨contacts₁, met₁, -⟩ := here ran
    obtain ⟨contacts₂, met₂, handed⟩ := later a rest
    exact ⟨_, met₁.append met₂, handed.subset (List.subset_append_right _ _)⟩

/-- A call of the VM hands on what the VM refuses. -/
theorem perform (request : VmRequest) : HandsOn env vm (vm.perform request) := by
  intro s ms r s' run
  have met : vm.Contacts env s (ms ++ []) [.vm ⟨request, r⟩] s' := .call run .nil
  rw [List.append_nil] at met
  refine ⟨_, met, .of_contact (c := .vm ⟨request, r⟩) ?_ List.mem_cons_self⟩
  rintro f rfl
  rfl

/-- The builder hands on what it refuses. -/
theorem buildState {job : String} {index : UInt32} {manifest : Manifest}
    {image : StemcellApplySpec} :
    HandsOn env vm (Services.buildState job index manifest image) := by
  refine (Meets.question (q := .buildState job index manifest image) rfl).mono ?_
  rintro _ r rfl
  refine .of_contact (c := .service (.buildState job index manifest image) r) ?_
    List.mem_cons_self
  rintro f rfl
  rfl

/-- What cannot fail hands on nothing. -/
theorem lift {p : ServiceProgram α} {P : List Contact → α → Prop} (meets : Meets env vm p P) :
    HandsOn env vm (ExceptT.lift p) := by
  intro s ms r s' run
  obtain ⟨a, rfl, ran⟩ := Action.runs_lift_iff.mp run
  obtain ⟨contacts, met, -⟩ := meets ran
  exact ⟨contacts, met, .ok⟩

theorem warn {message : String} {error : Option String} :
    HandsOn env vm (Action.warn message error) :=
  lift (Meets.question (q := .warn message error) rfl)

theorem inContext {message : String} (here : HandsOn env vm x) :
    HandsOn env vm (Action.inContext message x) := by
  intro s ms r s' run
  obtain ⟨r₀, rfl, ran⟩ := Action.runs_inContext_iff.mp run
  obtain ⟨contacts, met, handed⟩ := here ran
  exact ⟨contacts, met, handed.inContext⟩

theorem step {name : String} (here : HandsOn env vm x) : HandsOn env vm (Action.step name x) := by
  intro s ms r s' run
  obtain ⟨s₁, inner, s₂, noted, ran⟩ := Action.runs_step_iff.mp run
  obtain ⟨contacts₁, met₁, handed⟩ := here ran
  obtain ⟨contacts, met, within⟩ := met₁.noted noted
  exact ⟨contacts, met, handed.subset within⟩

theorem deletionStep {name : String} {type : CloudErrorType} {x : Action Unit}
    (here : HandsOn env vm x) : HandsOn env vm (Action.deletionStep name type x) := by
  intro s ms r s' run
  obtain ⟨r₀, s₁, inner, s₂, rfl, noted, ran⟩ := Action.runs_deletionStep_iff.mp run
  obtain ⟨contacts₁, met₁, handed⟩ := here ran
  obtain ⟨contacts, met, within⟩ := met₁.noted noted
  refine ⟨contacts, met, (handed.subset within).of_error ?_⟩
  exact fun _ failed => Action.eq_error_of_deletionEnd failed

theorem forM {xs : List β} {f : β → Action Unit} (each : ∀ x, HandsOn env vm (f x)) :
    HandsOn env vm (xs.forM f) := by
  induction xs with
  | nil => exact pure
  | cons x xs ih => exact (each x).bind fun _ => ih

end HandsOn

/-! ## The work of the operations -/

namespace Instance

open Vm (Meets)

variable {σ : Type} {env : Environment services σ} {i : Instance} {vm : Vm}

/-- A tunnel that does not start tells why in words of its own. -/
theorem handsOn_startTunnel (tunnel : TunnelRef) : HandsOn env vm (startTunnel tunnel) := by
  refine .inContext ?_
  refine .bind (.lift (Meets.question (q := .startTunnel tunnel) rfl)) fun started => ?_
  refine .bind (.forM fun _ => .warn) fun _ => ?_
  split
  · exact .pure
  · exact .throw rfl
  · exact .throw rfl

/-- That a tunnel cannot be stopped is only told. -/
theorem meets_stopTunnel (tunnel : TunnelRef) :
    Meets env vm (stopTunnel tunnel) fun _ _ => True := by
  refine ((Meets.question (q := .stopTunnel tunnel) rfl).bind (Q := fun _ _ _ => True)
    fun stopped => ?_).mono fun _ _ _ => trivial
  cases stopped with
  | ok _ => exact Meets.pure.mono fun _ _ _ => trivial
  | error e => exact (Meets.question (q := .warn _ _) rfl).mono fun _ _ _ => trivial

/-- What is done while a tunnel is up fails as it would without. -/
theorem handsOn_withTunnel {options : TunnelOptions} {x : Action Unit} (here : HandsOn env vm x) :
    HandsOn env vm (withTunnel options x) := by
  have works (tunnel : TunnelRef) : HandsOn env vm (do startTunnel tunnel; x) :=
    (handsOn_startTunnel tunnel).bind fun _ => here
  refine ((Meets.question (q := .openTunnel options) rfl).bind fun tunnel =>
    Meets.bind (works tunnel) fun r => (meets_stopTunnel tunnel).bind fun _ => Meets.pure).mono ?_
  rintro _ _ ⟨_, _, _, rfl, -, r, contacts, _, rfl, handed, _, _, _, rfl, -, -, rfl⟩
  exact handed.subset fun c mem => by simp [mem]

/-- What is done to wait for the agent of an instance. -/
def readyWork (i : Instance) (server : SettingsServer) (access : TunnelAccess) : Action Unit :=
  let wait := i.vm.waitUntilReady i.settings.agentWaitTimeout i.settings.agentPollDelay
  Action.step s!"Waiting for the agent on VM '{i.vm.cid.text}' to be ready"
    (match tunnelOptions? server access with
      | some options => withTunnel options wait
      | none => wait)

/-- What is done to make the disk of an instance match the manifest. -/
def diskWork (i : Instance) (manifest : Manifest) : Action (List Disk) :=
  match manifest.diskPool i.job with
  | .error e => throw (.context "Getting disk pool" (.manifest e))
  | .ok pool => Action.inContext "Updating disks" (i.vm.updateDisks pool)

/-- Behind the move of a change of the disk stands the work. -/
theorem updateDisks_eq {manifest : Manifest} :
    updateDisks manifest = (do
      move .convergingDisks
      let i ← getThe Instance
      act (i.diskWork manifest)) := by
  unfold updateDisks diskWork
  refine congrArg _ (funext fun _ => congrArg _ (funext fun i => ?_))
  cases manifest.diskPool i.job <;> rfl

theorem handsOn_readyWork {server : SettingsServer} {access : TunnelAccess} :
    HandsOn env i.vm (i.readyWork server access) := by
  have waits : HandsOn env i.vm
      (i.vm.waitUntilReady i.settings.agentWaitTimeout i.settings.agentPollDelay) :=
    .perform (.waitUntilReady _ _)
  refine .step ?_
  split
  · exact handsOn_withTunnel waits
  · exact waits

theorem handsOn_diskWork {manifest : Manifest} : HandsOn env i.vm (i.diskWork manifest) := by
  unfold diskWork
  split
  · exact .throw rfl
  · exact .inContext (.perform (.updateDisks _))

theorem handsOn_jobWork {manifest : Manifest} {image : StemcellApplySpec} :
    HandsOn env i.vm (i.jobWork manifest image) := by
  refine .bind (.inContext .buildState) fun state => .bind (.step ?_) fun _ => ?_
  · refine .bind (.inContext (.perform .stop)) fun _ => ?_
    refine .bind (.inContext (.perform (.apply _))) fun _ => ?_
    exact .inContext (.perform .start)
  · unfold waitForJobs watchAttempts
    dsimp only
    split
    · rename_i f counted
      split at counted
      · cases counted
        exact .throw rfl
      · cases counted
    · refine .step (.bind (.lift (Meets.question (q := .sleep _) rfl)) fun _ => ?_)
      exact .perform (.waitToBeRunning _ _)

theorem handsOn_removal {timeout delay : Duration} :
    HandsOn env i.vm (i.removal timeout delay) := by
  have deletes : HandsOn env i.vm
      (Action.deletionStep s!"Deleting VM '{i.vm.cid.text}'" .vmNotFound i.vm.delete) :=
    .deletionStep (.perform .delete)
  refine .bind (.inContext (.perform .exists)) fun present => ?_
  cases present with
  | false => exact deletes
  | true =>
    have waits : HandsOn env i.vm (Action.step s!"Waiting for the agent on VM '{i.vm.cid.text}'"
        (Action.inContext "Agent unreachable" (i.vm.waitUntilReady timeout delay))) :=
      .step (.inContext (.perform (.waitUntilReady _ _)))
    refine .bind (.bind (.lift waits) ?_) fun _ => deletes
    rintro (f | _)
    · exact .warn
    · refine .bind (.step (.perform .stop)) fun _ => ?_
      refine .bind (.inContext (.perform .disks)) fun disks => .forM fun disk => ?_
      exact .step (.inContext (.perform (.unmountDisk disk)))

end Instance

end VmDeploy
