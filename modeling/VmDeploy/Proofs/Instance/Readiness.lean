import VmDeploy.Proofs.Instance.Contacts

/-!
# Waits for an agent

What an instance turns to while it waits for its agent, notes left out (`Instance.Awaits`). If a
server and an access to the network are both set up, a tunnel forwards the port of the server
while the VM waits: it is made and started, the VM waits if it came up, and it is stopped
whichever way that went.

How the wait ends hangs on whether the tunnel came up and on how the VM's wait ended, and on
nothing else: not on errors that the tunnel reports by the way, and not on whether it can be
stopped (`Readiness.noise`).
-/

set_option autoImplicit false

namespace VmDeploy

/-- Why a tunnel did not come up, if it did not. Errors that it reported by the way do not count. -/
def TunnelStart.failure? (start : TunnelStart) : Option Failure :=
  match start.ready with
  | some (.ok ()) => none
  | some (.error e) => some (.tunnel e)
  | none => some (.plain "SSH tunnel exited before reporting readiness")

theorem TunnelStart.failure?_congr {start start' : TunnelStart}
    (same : start.ready = start'.ready) : start.failure? = start'.failure? := by
  unfold failure?
  rw [same]

theorem TunnelStart.failure?_eq_none_iff {start : TunnelStart} :
    start.failure? = none ↔ start.ready = some (.ok ()) := by
  unfold failure?
  split <;> simp_all

/-- How the start of a tunnel is told. -/
def TunnelStart.result (start : TunnelStart) : Except Failure Unit :=
  match start.failure? with
  | some f => .error (.context "Starting SSH tunnel" f)
  | none => .ok ()

theorem TunnelStart.result_eq_ok_iff {start : TunnelStart} :
    start.result = .ok () ↔ start.failure? = none := by
  cases h : start.failure? <;> simp [result, h]

namespace Contact

/-- Whether a contact only notes what is going on. -/
def isNote : Contact → Bool
  | .vm _ => false
  | .service q _ => q.isNote

/-- The contacts that are no notes. -/
def salient (contacts : List Contact) : List Contact := contacts.filter (!·.isNote)

@[simp] theorem salient_append (contacts contacts' : List Contact) :
    salient (contacts ++ contacts') = salient contacts ++ salient contacts' :=
  List.filter_append ..

/-- What a tunnel was made for, and the tunnel, if a contact makes one. -/
def made? : Contact → Option (TunnelOptions × TunnelRef)
  | .service (.openTunnel options) tunnel => some (options, tunnel)
  | _ => none

/-- Whether a contact starts a certain tunnel. -/
def starts (tunnel : TunnelRef) : Contact → Bool
  | .service (.startTunnel started) _ => started = tunnel
  | _ => false

/-- Whether a contact stops a certain tunnel. -/
def stops (tunnel : TunnelRef) : Contact → Bool
  | .service (.stopTunnel stopped) _ => stopped = tunnel
  | _ => false

/-- How the start of a tunnel went, if a contact is one. -/
def started? : Contact → Option TunnelStart
  | .service (.startTunnel _) start => some start
  | _ => none

/-- How a wait of the VM ended, if a contact is one. -/
def waited? : Contact → Option (Except Failure Unit)
  | .vm ⟨.waitUntilReady _ _, answer⟩ => some answer
  | _ => none

/-- What a contact says that is no noise: what stood in the ready slot of a tunnel, or how the VM's
wait ended. -/
def verdict? : Contact → Option (Option (Except TunnelError Unit) ⊕ Except Failure Unit)
  | .service (.startTunnel _) start => some (.inl (TunnelStart.ready start))
  | .vm ⟨.waitUntilReady _ _, answer⟩ => some (.inr answer)
  | _ => none

end Contact

/-! ## Contacts but for notes -/

namespace Vm

variable {σ α β : Type} {env : Environment services σ} {vm : Vm}

/-- Every run of a program consists of contacts, of which, notes left out, something holds together
with its value. -/
def Faces (env : Environment services σ) (vm : Vm) (p : ServiceProgram α)
    (P : List Contact → α → Prop) : Prop :=
  vm.Meets env p fun contacts a => P (Contact.salient contacts) a

namespace Faces

variable {p : ServiceProgram α} {f : α → ServiceProgram β} {P P' : List Contact → α → Prop}
  {Q : α → List Contact → β → Prop}

theorem mono (faces : Faces env vm p P) (weaker : ∀ contacts a, P contacts a → P' contacts a) :
    Faces env vm p P' :=
  Meets.mono faces fun _ _ => weaker _ _

theorem pure {a : α} : Faces env vm (Pure.pure a) fun contacts b => contacts = [] ∧ b = a := by
  refine Meets.pure.mono ?_
  rintro _ _ ⟨rfl, rfl⟩
  exact ⟨rfl, rfl⟩

theorem bind (here : Faces env vm p P) (later : ∀ a, Faces env vm (f a) (Q a)) :
    Faces env vm (p >>= f) fun contacts b =>
      ∃ a contacts₁ contacts₂, contacts = contacts₁ ++ contacts₂ ∧ P contacts₁ a ∧
        Q a contacts₂ b := by
  refine (Meets.bind here later).mono ?_
  rintro _ _ ⟨a, contacts₁, contacts₂, rfl, holds₁, holds₂⟩
  exact ⟨a, _, _, Contact.salient_append _ _, holds₁, holds₂⟩

/-- A question that is no note is one contact. -/
theorem question {q : ServiceQuestion} (beside : q.isBeside = true) (salient : q.isNote = false) :
    Faces env vm (Program.question (I := services) q) fun contacts answer =>
      contacts = [.service q answer] := by
  refine (Meets.question beside).mono ?_
  rintro _ answer rfl
  have kept : (!(Contact.service q answer).isNote) = true := congrArg not salient
  exact List.filter_cons_of_pos kept

/-- A warning is only noted. -/
theorem warn {message : String} {error : Option String} :
    Faces env vm (Services.warn message error) fun contacts _ => contacts = [] := by
  refine (Meets.question (q := .warn message error) rfl).mono ?_
  rintro _ _ rfl
  rfl

end Faces

/-- Every run of an action consists of contacts, of which, notes left out, something holds together
with its result. -/
abbrev Undergoes (env : Environment services σ) (vm : Vm) (x : Action α)
    (P : List Contact → Except Failure α → Prop) : Prop :=
  Faces env vm x.run P

namespace Undergoes

variable {x : Action α} {f : α → Action β} {P : List Contact → Except Failure α → Prop}
  {Q : α → List Contact → Except Failure β → Prop}

theorem perform (request : VmRequest) :
    Undergoes env vm (vm.perform request) fun contacts r => contacts = [.vm ⟨request, r⟩] := by
  intro s ms r s' run
  have met : vm.Contacts env s (ms ++ []) [.vm ⟨request, r⟩] s' := .call run .nil
  rw [List.append_nil] at met
  exact ⟨_, met, rfl⟩

/-- A sequence ends with its first part, or the contacts of both parts stand behind each other. -/
theorem bind (here : Undergoes env vm x P) (later : ∀ a, Undergoes env vm (f a) (Q a)) :
    Undergoes env vm (x >>= f) fun contacts r =>
      (∃ e, r = .error e ∧ P contacts (.error e)) ∨
        ∃ a contacts₁ contacts₂, contacts = contacts₁ ++ contacts₂ ∧ P contacts₁ (.ok a) ∧
          Q a contacts₂ r := by
  intro s ms r s' run
  rcases Action.runs_bind_iff.mp run with ⟨e, rfl, ran⟩ | ⟨a, s₁, ms₁, ms₂, rfl, ran, rest⟩
  · obtain ⟨contacts, met, holds⟩ := here ran
    exact ⟨contacts, met, .inl ⟨e, rfl, holds⟩⟩
  · obtain ⟨contacts₁, met₁, holds₁⟩ := here ran
    obtain ⟨contacts₂, met₂, holds₂⟩ := later a rest
    refine ⟨_, met₁.append met₂, .inr ⟨a, _, _, Contact.salient_append _ _, holds₁, holds₂⟩⟩

/-- What cannot fail is followed by what is done with its value. -/
theorem lift {p : ServiceProgram α} {P : List Contact → α → Prop} (here : Faces env vm p P)
    (later : ∀ a, Undergoes env vm (f a) (Q a)) :
    Undergoes env vm (ExceptT.lift p >>= f) fun contacts r =>
      ∃ a contacts₁ contacts₂, contacts = contacts₁ ++ contacts₂ ∧ P contacts₁ a ∧
        Q a contacts₂ r := by
  have : (ExceptT.lift p >>= f : Action β).run = p >>= fun a => (f a).run := by
    rw [ExceptT.run_bind, ExceptT.run_lift, map_eq_pure_bind, bind_assoc]
    rfl
  rw [Undergoes, this]
  exact Faces.bind here later

theorem inContext {message : String} (here : Undergoes env vm x P) :
    Undergoes env vm (Action.inContext message x) fun contacts r =>
      ∃ r₀, r = r₀.mapError (.context message) ∧ P contacts r₀ := by
  intro s ms r s' run
  obtain ⟨r₀, rfl, ran⟩ := Action.runs_inContext_iff.mp run
  obtain ⟨contacts, met, holds⟩ := here ran
  exact ⟨contacts, met, r₀, rfl, holds⟩

/-- A step adds notes alone. -/
theorem step {name : String} (here : Undergoes env vm x P) :
    Undergoes env vm (Action.step name x) P := by
  intro s ms r s' run
  obtain ⟨s₁, inner, s₂, ⟨started, finished⟩, ran⟩ := Action.runs_step_iff.mp run
  obtain ⟨contacts, met, holds⟩ := here ran
  have ending : Contacts env vm s₂ _ _ s' := .ask rfl finished .nil
  refine ⟨_, .ask rfl started (met.append ending), ?_⟩
  show P (Contact.salient (contacts ++ [_])) r
  rw [Contact.salient_append]
  exact (List.append_nil (Contact.salient contacts)).symm ▸ holds

/-- Errors that are only told are only noted. -/
theorem forM_warn {message : String} {text : β → String} (xs : List β) :
    Undergoes env vm (xs.forM fun x => Action.warn message (some (text x))) fun contacts r =>
      contacts = [] ∧ r = .ok () := by
  induction xs with
  | nil => exact Faces.pure
  | cons x xs ih =>
    refine (lift Faces.warn fun _ => ih).mono ?_
    rintro _ _ ⟨_, _, _, rfl, rfl, rfl, rfl⟩
    exact ⟨rfl, rfl⟩

end Undergoes

end Vm

namespace Instance

open Vm (Undergoes)

variable {σ : Type} {env : Environment services σ} {i : Instance} {settings : InstanceSettings}
  {server : SettingsServer} {access : TunnelAccess} {contacts : List Contact}
  {r : Except Failure Unit}

/-- The forwarding of the port of a server through an access to the network. -/
def forwarding (server : SettingsServer) (access : TunnelAccess) : TunnelOptions where
  host := access.host
  port := access.port
  user := access.user
  password := access.password
  privateKey := access.privateKey
  localPort := server.port
  remotePort := server.port

/-- A tunnel is made if server and access are both set up. -/
theorem tunnelOptions?_eq :
    tunnelOptions? server access
      = if server = {} ∨ access = {} then none else some (forwarding server access) := by
  have unset : (server.isEmpty || access.isEmpty) = true ↔ server = {} ∨ access = {} := by
    simp [SettingsServer.isEmpty, TunnelAccess.isEmpty]
  unfold tunnelOptions?
  split
  · rename_i empty
    rw [if_pos (unset.mp empty)]
  · rename_i full
    rw [if_neg (full ∘ unset.mpr)]
    rfl

/-- The VM's wait for the agent of an instance, and how it ended. -/
def waitCall (settings : InstanceSettings) (r : Except Failure Unit) : Contact :=
  .vm ⟨.waitUntilReady settings.agentWaitTimeout settings.agentPollDelay, r⟩

/-- The contacts of a wait for the agent, notes left out, and how it ends. -/
inductive Awaits (settings : InstanceSettings) (server : SettingsServer) (access : TunnelAccess) :
    List Contact → Except Failure Unit → Prop
  /-- No tunnel is needed. -/
  | direct {r : Except Failure Unit} (unset : server = {} ∨ access = {}) :
      Awaits settings server access [waitCall settings r] r
  /-- The tunnel does not come up; it is stopped all the same. -/
  | unready {tunnel : TunnelRef} {start : TunnelStart} {stopped : Except TunnelError Unit}
      {f : Failure} (set : ¬ (server = {} ∨ access = {})) (failed : start.failure? = some f) :
      Awaits settings server access
        [.service (.openTunnel (forwarding server access)) tunnel,
          .service (.startTunnel tunnel) start, .service (.stopTunnel tunnel) stopped]
        (.error (.context "Starting SSH tunnel" f))
  /-- The VM waits while the tunnel is up. -/
  | forwarded {tunnel : TunnelRef} {start : TunnelStart} {stopped : Except TunnelError Unit}
      {r : Except Failure Unit} (set : ¬ (server = {} ∨ access = {}))
      (up : start.failure? = none) :
      Awaits settings server access
        [.service (.openTunnel (forwarding server access)) tunnel,
          .service (.startTunnel tunnel) start, waitCall settings r,
          .service (.stopTunnel tunnel) stopped] r

/-- The start of a tunnel is one contact, and is told as it went. -/
theorem undergoes_startTunnel {vm : Vm} (tunnel : TunnelRef) :
    Undergoes env vm (startTunnel tunnel) fun contacts r =>
      ∃ start, contacts = [.service (.startTunnel tunnel) start] ∧ r = start.result := by
  have starts : Vm.Faces env vm (Services.startTunnel tunnel) _ :=
    .question (q := .startTunnel tunnel) rfl rfl
  have ends (start : TunnelStart) : Undergoes env vm
      (match start.ready with
        | some (.ok ()) => pure ()
        | some (.error e) => throw (.tunnel e)
        | none => throw (.plain "SSH tunnel exited before reporting readiness") : Action Unit)
      fun contacts r => contacts = [] ∧ r.mapError (.context "Starting SSH tunnel") = start.result
      := by
    unfold TunnelStart.result TunnelStart.failure?
    split
    all_goals
      refine Vm.Faces.pure.mono ?_
      rintro _ _ ⟨rfl, rfl⟩
      exact ⟨rfl, rfl⟩
  refine (Undergoes.inContext (Undergoes.lift starts fun start =>
    Undergoes.bind (Undergoes.forM_warn start.errors) fun _ => ends start)).mono ?_
  rintro _ _ ⟨r₀, rfl, start, _, _, rfl, rfl,
    ⟨_, _, _, told⟩ | ⟨_, _, _, rfl, ⟨rfl, -⟩, rfl, result⟩⟩
  · cases told
  · exact ⟨start, rfl, result⟩

/-- The stop of a tunnel is one contact, whatever comes of it. -/
theorem faces_stopTunnel {vm : Vm} (tunnel : TunnelRef) :
    Vm.Faces env vm (stopTunnel tunnel) fun contacts _ =>
      ∃ stopped, contacts = [.service (.stopTunnel tunnel) stopped] := by
  have stops : Vm.Faces env vm (Services.stopTunnel tunnel) _ :=
    .question (q := .stopTunnel tunnel) rfl rfl
  refine (stops.bind (Q := fun _ contacts _ => contacts = []) fun stopped => ?_).mono ?_
  · cases stopped with
    | ok _ => exact Vm.Faces.pure.mono fun _ _ h => h.1
    | error e => exact .warn
  · rintro _ _ ⟨stopped, _, _, rfl, rfl, rfl⟩
    exact ⟨stopped, rfl⟩

/-- Every run of the work takes this course. -/
theorem undergoes_readyWork :
    Undergoes env i.vm (i.readyWork server access) (Awaits i.settings server access) := by
  have waits : Undergoes env i.vm
      (i.vm.waitUntilReady i.settings.agentWaitTimeout i.settings.agentPollDelay) _ :=
    .perform (.waitUntilReady _ _)
  refine .step ?_
  rw [tunnelOptions?_eq]
  by_cases unset : server = {} ∨ access = {}
  · rw [if_pos unset]
    refine waits.mono ?_
    rintro _ _ rfl
    exact .direct unset
  · rw [if_neg unset]
    have opens : Vm.Faces env i.vm (Services.openTunnel (forwarding server access)) _ :=
      .question (q := .openTunnel _) rfl rfl
    have works (tunnel : TunnelRef) : Undergoes env i.vm (do
        startTunnel tunnel
        i.vm.waitUntilReady i.settings.agentWaitTimeout i.settings.agentPollDelay) _ :=
      (undergoes_startTunnel tunnel).bind fun _ => waits
    refine (opens.bind fun tunnel => Vm.Faces.bind (works tunnel) fun _ =>
      (faces_stopTunnel tunnel).bind fun _ => Vm.Faces.pure).mono ?_
    rintro _ _ ⟨tunnel, _, _, rfl, rfl, r, _, _, rfl, course, _, _, _, rfl, ⟨stopped, rfl⟩, rfl,
      rfl⟩
    rcases course with ⟨e, rfl, start, rfl, failed⟩ | ⟨_, _, _, rfl, ⟨start, rfl, up⟩, rfl⟩
    · cases told : start.failure? with
      | none => simp [TunnelStart.result, told] at failed
      | some f =>
        simp only [TunnelStart.result, told, Except.error.injEq] at failed
        subst failed
        exact .unready unset told
    · exact .forwarded unset (TunnelStart.result_eq_ok_iff.mp up.symm)

/-! ## What the courses have in common -/

/-- One tunnel is made if server and access are set up. -/
theorem Awaits.made (awaits : Awaits settings server access contacts r) :
    (contacts.filterMap Contact.made?).map Prod.fst =
      if server ≠ {} ∧ access ≠ {} then [forwarding server access] else [] := by
  have swap : (server ≠ {} ∧ access ≠ {}) ↔ ¬ (server = {} ∨ access = {}) := not_or.symm
  cases awaits with
  | direct unset =>
    rw [if_neg fun set => swap.mp set unset]
    rfl
  | unready set _ | forwarded set _ =>
    rw [if_pos (swap.mpr set)]
    rfl

/-- A tunnel that is made is started once and stopped once. -/
theorem Awaits.bracketed (awaits : Awaits settings server access contacts r)
    {options : TunnelOptions} {tunnel : TunnelRef}
    (made : (options, tunnel) ∈ contacts.filterMap Contact.made?) :
    contacts.countP (·.starts tunnel) = 1 ∧ contacts.countP (·.stops tunnel) = 1 := by
  cases awaits with
  | direct => cases made
  | unready | forwarded =>
    cases List.mem_singleton.mp made
    simp [Contact.starts, Contact.stops, waitCall]

/-- A tunnel is stopped only when everything else is over. -/
theorem Awaits.stopped_last (awaits : Awaits settings server access contacts r)
    (tunnel : TunnelRef) : ∀ c ∈ contacts.dropLast, c.stops tunnel = false := by
  cases awaits with
  | direct => nofun
  | unready | forwarded => simp [Contact.stops, waitCall]

/-- The VM waits if no tunnel was needed or the tunnel came up. -/
theorem Awaits.waits_iff (awaits : Awaits settings server access contacts r) :
    contacts.filterMap Contact.waited? ≠ [] ↔
      (server = {} ∨ access = {}) ∨
        ∃ start ∈ contacts.filterMap Contact.started?, start.ready = some (.ok ()) := by
  cases awaits with
  | direct unset => exact iff_of_true nofun (.inl unset)
  | @unready _ start _ _ set failed =>
    refine iff_of_false (fun some => some rfl) ?_
    rintro (unset | ⟨_, mem, up⟩)
    · exact set unset
    · cases List.mem_singleton.mp mem
      rw [TunnelStart.failure?_eq_none_iff.mpr up] at failed
      cases failed
  | @forwarded _ start _ _ _ up =>
    exact iff_of_true nofun
      (.inr ⟨start, List.mem_singleton_self _, TunnelStart.failure?_eq_none_iff.mp up⟩)

/-- A wait ends as the start of the tunnel, if that fails, and otherwise as the VM's wait. -/
theorem Awaits.result (awaits : Awaits settings server access contacts r) :
    (∃ start f, contacts.filterMap Contact.started? = [start] ∧ start.failure? = some f ∧
        r = .error (.context "Starting SSH tunnel" f)) ∨
      (∀ start ∈ contacts.filterMap Contact.started?, start.failure? = none) ∧
        contacts.filterMap Contact.waited? = [r] := by
  cases awaits with
  | direct => exact .inr ⟨nofun, rfl⟩
  | @unready _ start _ f _ failed => exact .inl ⟨start, f, rfl, failed, rfl⟩
  | @forwarded _ start _ _ _ up =>
    refine .inr ⟨?_, rfl⟩
    intro start' mem
    cases List.mem_singleton.mp mem
    exact up

/-- Of two waits in which the tunnel's ready slot and the VM say the same, both end alike. -/
theorem Awaits.noise {contacts' : List Contact} {r' : Except Failure Unit}
    (awaits : Awaits settings server access contacts r)
    (awaits' : Awaits settings server access contacts' r')
    (same : contacts'.filterMap Contact.verdict? = contacts.filterMap Contact.verdict?) :
    r' = r := by
  cases awaits with
  | direct unset =>
    cases awaits' with
    | direct =>
      have told : [Sum.inr r'] = [Sum.inr (α := Option (Except TunnelError Unit)) r] := same
      cases told
      rfl
    | unready set _ | forwarded set _ => exact absurd unset set
  | @unready _ start _ f set failed =>
    cases awaits' with
    | direct unset => exact absurd unset set
    | @unready _ start' _ f' _ failed' =>
      have told : [Sum.inl start'.ready] =
        [Sum.inl (β := Except Failure Unit) start.ready] := same
      have ready : start'.ready = start.ready := by simpa using told
      rw [TunnelStart.failure?_congr ready, failed] at failed'
      cases failed'
      rfl
    | forwarded => cases (congrArg List.length same : 2 = 1)
  | @forwarded _ start _ _ set up =>
    cases awaits' with
    | direct unset => exact absurd unset set
    | unready => cases (congrArg List.length same : 1 = 2)
    | @forwarded _ start' _ _ _ up' =>
      have told : [Sum.inl start'.ready, Sum.inr r'] = [Sum.inl start.ready, Sum.inr r] := same
      have both : start'.ready = start.ready ∧ r' = r := by simpa using told
      exact both.2

/-- What holds of a wait for the agent that the lifecycle admits, whatever tunnel and VM do. -/
structure Readiness (i : Instance) (server : SettingsServer) (access : TunnelAccess)
    (contacts : List Contact) (r : Except Failure Unit) (i' : Instance) : Prop where
  /-- The contacts are those of a wait, in their order. -/
  course : Awaits i.settings server access contacts r
  /-- The instance awaits its agent, also if that fails. -/
  lifecycle : i' = i.movedTo .awaitingAgent
  /-- One tunnel is made if server and access are both set up, and none otherwise. It forwards the
  port of the server at both of its ends. -/
  made : (contacts.filterMap Contact.made?).map Prod.fst =
    if server ≠ {} ∧ access ≠ {} then
      [⟨access.host, access.port, access.user, access.password, access.privateKey,
        server.port, server.port⟩]
    else []
  /-- A tunnel that is made is started once and stopped once. -/
  bracketed : ∀ options tunnel, (options, tunnel) ∈ contacts.filterMap Contact.made? →
    contacts.countP (·.starts tunnel) = 1 ∧ contacts.countP (·.stops tunnel) = 1
  /-- It is stopped when everything else is over, the VM's wait among it. -/
  stopped : ∀ tunnel, ∀ c ∈ contacts.dropLast, c.stops tunnel = false
  /-- The VM waits if no tunnel was needed or the tunnel came up. -/
  waits_iff : contacts.filterMap Contact.waited? ≠ [] ↔
    (server = {} ∨ access = {}) ∨
      ∃ start ∈ contacts.filterMap Contact.started?, start.ready = some (.ok ())
  /-- The result is that of the tunnel's start if it failed, and otherwise that of the VM's wait. -/
  result :
    (∃ start f, contacts.filterMap Contact.started? = [start] ∧ start.failure? = some f ∧
        r = .error (.context "Starting SSH tunnel" f)) ∨
      (∀ start ∈ contacts.filterMap Contact.started?, start.failure? = none) ∧
        contacts.filterMap Contact.waited? = [r]
  /-- Errors that a tunnel reports by the way, and that it cannot be stopped, change nothing: a wait
  in which the tunnel's ready slot and the VM say the same ends alike. -/
  noise : ∀ contacts' r', Awaits i.settings server access contacts' r' →
    contacts'.filterMap Contact.verdict? = contacts.filterMap Contact.verdict? → r' = r

end Instance

/-- What a moment turned to. -/
def Moment.contact {σ : Type} : Moment services σ → Contact
  | ⟨_, .vm _ request, answer⟩ => .vm ⟨request, answer⟩
  | ⟨_, q, answer⟩ => .service q answer

/-- The contacts of an instance whose VM somebody else drives are all that is asked. -/
theorem Vm.Contacts.eq_map {σ : Type} {env : Environment services σ} {cid : VmCid} {ref : VmRef}
    {s s' : σ} {ms : List (Moment services σ)} {contacts : List Contact}
    (met : (Vm.remote cid ref).Contacts env s ms contacts s') :
    contacts = ms.map Moment.contact := by
  induction met with
  | nil => rfl
  | call made _ ih =>
    rw [Vm.perform_remote] at made
    obtain ⟨rfl, -⟩ := Action.runs_vm_iff.mp made
    rw [List.map_append, ← ih]
    rfl
  | @ask q answer s _ _ _ _ beside _ _ ih =>
    have here : Moment.contact (⟨s, q, answer⟩ : Moment services σ) = .service q answer := by
      cases q with
      | vm _ _ => cases beside
      | _ => rfl
    rw [List.map_cons, ← ih, here]

namespace Instance

variable {σ : Type} {env : Environment services σ} {i i' : Instance} {server : SettingsServer}
  {access : TunnelAccess} {s s' : σ} {ms : List (Moment services σ)} {r : Except Failure Unit}

/-- Behind the move of a wait for the agent stands the work. -/
theorem waitUntilReady_eq :
    waitUntilReady server access = (do
      move .awaitingAgent
      let i ← getThe Instance
      act (i.readyWork server access)) :=
  rfl

/-- Every wait for the agent that the lifecycle admits consists of calls of the VM and of what works
beside it, and, notes left out, these bracket the VM's wait by a tunnel. For a VM that somebody else
drives they are all that is asked. -/
theorem readiness_of_runs (admitted : i.lifecycle.canMoveTo .awaitingAgent = true)
    (run : InstanceAction.Runs env (waitUntilReady server access) i s ms r i' s') :
    ∃ contacts, i.vm.Contacts env s ms contacts s' ∧
      (∀ cid ref, i.vm = .remote cid ref → contacts = ms.map Moment.contact) ∧
      i.Readiness server access (Contact.salient contacts) r i' := by
  rw [waitUntilReady_eq, InstanceAction.runs_enter_iff, if_pos admitted] at run
  obtain ⟨rfl, ran⟩ := InstanceAction.runs_act_iff.mp run
  obtain ⟨contacts, met, course⟩ := undergoes_readyWork ran
  change i.vm.Contacts env s ms contacts s' at met
  refine ⟨contacts, met, ?_, course, rfl, course.made, fun _ _ => course.bracketed,
    course.stopped_last, course.waits_iff, course.result, fun _ _ => course.noise⟩
  intro cid ref same
  rw [same] at met
  exact met.eq_map

/-- The server whose port is forwarded in the sample, and the access to the network of its VM. -/
def sampleServer : SettingsServer := { host := "registry", port := 25777 }

@[inherit_doc sampleServer]
def sampleAccess : TunnelAccess := { host := "10.0.0.4", port := 22, user := "vcap" }

/-- Services with a tunnel that comes up, loses a connection and cannot be stopped, and with a VM
whose agent does not answer. -/
def noisyServices : Program.Handler services Unit
  | .startTunnel _, _ => (TunnelStart.mk (some (.ok ())) [.accept (.other "reset")], ())
  | .stopTunnel _, _ => (Except.error (ε := TunnelError) (.close (.other "lost")), ())
  | .vm _ (.waitUntilReady _ _), _ => (Except.error (ε := Failure) (.plain "no answer"), ())
  | q, _ => (q.plainAnswer, ())

/-- The wait of the sample for its agent. -/
def sampleWait : ServiceProgram (Except Failure Unit × Instance) :=
  (waitUntilReady sampleServer sampleAccess).run.run sample

theorem readiness_of_runs_sample :
    sample.lifecycle.canMoveTo .awaitingAgent = true ∧
      (sampleWait.run noisyServices ()).1.1 = .error (.plain "no answer") ∧
      (Contact.salient ((sampleWait.trace noisyServices ()).map Moment.contact)).length = 4 ∧
      ∃ contacts,
        sample.vm.Contacts (Program.ofHandler noisyServices) ()
          (sampleWait.trace noisyServices ()) contacts () ∧
        (∀ cid ref, sample.vm = .remote cid ref →
          contacts = (sampleWait.trace noisyServices ()).map Moment.contact) ∧
        sample.Readiness sampleServer sampleAccess (Contact.salient contacts)
          (sampleWait.run noisyServices ()).1.1 (sampleWait.run noisyServices ()).1.2 := by
  refine ⟨by decide, rfl, by decide +kernel, ?_⟩
  exact readiness_of_runs (by decide) (Program.runs_ofHandler noisyServices sampleWait ())

end Instance

end VmDeploy
