import VmDeploy.Proofs.Tunnel.Stops

/-!
# How a tunnel is brought up

What a start does until it knows whether the tunnel is up (`Tunnel.Rises`): it reads the key, if
there is one, dials (`Tunnel.Dials`), has the remote server listen, and closes the listener again
if the tunnel was stopped meanwhile. Every connect that fails is slept on before it is looked
whether to go on, but for the last one that is allowed.

`openUp_of_runs` says that it goes like this whatever is answered, by the world and by what the
callers share, unless the tunnel may not dial at all. `start_of_runs` goes on from there: the start
moves the tunnel and tells why it is not up, or it tells that it is up and serves.
-/

set_option autoImplicit false

namespace VmDeploy

namespace Tunnel

open TunnelDeed (ofMoments ofMoments_append ofMoments_move)

variable (t : Tunnel)

/-! ## The course -/

/-- What is offered if a password is set. -/
def passwordMethods : List AuthMethod :=
  if t.options.password = "" then []
  else [.keyboardInteractive t.options.password, .password t.options.password]

/-- How the key is read, and what is offered then. -/
inductive Offers : List TunnelDeed → List AuthMethod → Prop
  | unkeyed (unnamed : t.options.privateKey = "") : Offers [] t.passwordMethods
  | keyed {key : String} (named : t.options.privateKey ≠ "") :
    Offers [.world (.readKey t.options.privateKey) (.ok key)] (.publicKey key :: t.passwordMethods)

/-- How often the remote server is dialed at most. -/
def tries : Nat := max 1 t.policy.maxTries.toNat

/-- A connect, and what came of it. -/
def connects (auth : List AuthMethod) (result : Except StreamError Unit) : TunnelDeed :=
  .world (.connect t.server t.options.user auth) result

/-- A connect that fails, the sleep behind it, and the look whether to go on. -/
def misses (auth : List AuthMethod) (stop : Bool) (e : StreamError) : List TunnelDeed :=
  [t.connects auth (.error e), .world (.sleep t.policy.delay) (), .look stop]

/-- How the remote server is dialed when so many connects may be made, and how that ends. -/
inductive Dials (auth : List AuthMethod) (tries : Nat) :
    List TunnelDeed → Except TunnelError Unit → Prop
  /-- A connect succeeds. -/
  | connected {failures : List StreamError} (few : failures.length < tries) :
    Dials auth tries (failures.flatMap (t.misses auth false) ++ [t.connects auth (.ok ())]) (.ok ())
  /-- The last connect that is allowed fails. -/
  | exhausted {failures : List StreamError} {e : StreamError} (all : failures.length + 1 = tries) :
    Dials auth tries (failures.flatMap (t.misses auth false) ++ [t.connects auth (.error e)])
      (.error (.dial t.tries e))
  /-- Behind a connect that failed the tunnel turns out to be asked to stop. -/
  | stopped {failures : List StreamError} {e : StreamError} (few : failures.length + 1 < tries) :
    Dials auth tries (failures.flatMap (t.misses auth false) ++ t.misses auth true e)
      (.error .stopped)

/-- What the remote server is asked when it was dialed, and what it answers. -/
def listens (result : Except StreamError ListenerRef) : TunnelDeed :=
  .world (.listen listenHost t.options.remotePort) result

/-- What is done to bring a tunnel up, and how that ends. -/
inductive Rises : List TunnelDeed → Except TunnelError Unit → Prop
  /-- The key cannot be read. -/
  | unreadable {e : StreamError} (named : t.options.privateKey ≠ "") :
    Rises [.world (.readKey t.options.privateKey) (.error e)]
      (.error (.readPrivateKey t.options.privateKey e))
  /-- The remote server cannot be dialed. -/
  | undialed {key dials : List TunnelDeed} {auth : List AuthMethod} {e : TunnelError}
    (offers : t.Offers key auth) (dialed : t.Dials auth t.tries dials (.error e)) :
    Rises (key ++ dials) (.error e)
  /-- The remote server does not listen. -/
  | unheard {key dials : List TunnelDeed} {auth : List AuthMethod} {e : StreamError}
    (offers : t.Offers key auth) (dialed : t.Dials auth t.tries dials (.ok ())) :
    Rises (key ++ dials ++ [t.listens (.error e)]) (.error (.listen e))
  /-- The tunnel was stopped, and the listener is closed again. -/
  | shut {key dials : List TunnelDeed} {auth : List AuthMethod} {listener : ListenerRef}
    {closed : Except StreamError Unit}
    (offers : t.Offers key auth) (dialed : t.Dials auth t.tries dials (.ok ())) :
    Rises (key ++ dials ++ [t.listens (.ok listener), .world (.close listener) closed])
      (.error .stopped)
  | up {key dials : List TunnelDeed} {auth : List AuthMethod} {listener : ListenerRef}
    (offers : t.Offers key auth) (dialed : t.Dials auth t.tries dials (.ok ())) :
    Rises (key ++ dials ++ [t.listens (.ok listener)]) (.ok ())

variable {t}

namespace Dials

variable {auth : List AuthMethod} {tries : Nat}

/-- The first connect succeeds. -/
theorem at_once : t.Dials auth (tries + 1) [t.connects auth (.ok ())] (.ok ()) :=
  @connected t auth _ [] (Nat.succ_pos _)

/-- The only connect fails. -/
theorem in_vain {e : StreamError} :
    t.Dials auth 1 [t.connects auth (.error e)] (.error (.dial t.tries e)) :=
  @exhausted t auth _ [] e rfl

/-- The tunnel is stopped behind the first connect. -/
theorem given_up {e : StreamError} :
    t.Dials auth (tries + 2) (t.misses auth true e) (.error .stopped) :=
  @stopped t auth _ [] e (Nat.succ_lt_succ (Nat.succ_pos _))

/-- A connect fails before others. -/
theorem miss {ds : List TunnelDeed} {r : Except TunnelError Unit} {e : StreamError}
    (dials : t.Dials auth tries ds r) :
    t.Dials auth (tries + 1) (t.misses auth false e ++ ds) r := by
  cases dials with
  | connected few =>
    rw [← List.append_assoc, ← List.flatMap_cons]
    exact .connected (Nat.succ_lt_succ few)
  | exhausted all =>
    rw [← List.append_assoc, ← List.flatMap_cons]
    exact .exhausted (congrArg Nat.succ all)
  | stopped few =>
    rw [← List.append_assoc, ← List.flatMap_cons]
    exact .stopped (Nat.succ_lt_succ few)

/-- Dialing is connecting, sleeping and looking. -/
theorem each {P : TunnelDeed → Prop} {ds : List TunnelDeed} {r : Except TunnelError Unit}
    (dials : t.Dials auth tries ds r) (connects : ∀ result, P (t.connects auth result))
    (sleeps : P (.world (.sleep t.policy.delay) ())) (looks : ∀ stop, P (.look stop)) :
    ∀ d ∈ ds, P d := by
  have miss (stop : Bool) (e : StreamError) : ∀ d ∈ t.misses auth stop e, P d :=
    List.forall_mem_cons.mpr ⟨connects _, List.forall_mem_cons.mpr
      ⟨sleeps, List.forall_mem_singleton.mpr (looks stop)⟩⟩
  have missed (failures : List StreamError) :
      ∀ d ∈ failures.flatMap (t.misses auth false), P d := fun d mem => by
    obtain ⟨e, -, mem⟩ := List.mem_flatMap.mp mem
    exact miss false e d mem
  cases dials with
  | connected _ | exhausted _ =>
    exact List.forall_mem_append.mpr ⟨missed _, List.forall_mem_singleton.mpr (connects _)⟩
  | stopped _ => exact List.forall_mem_append.mpr ⟨missed _, miss true _⟩

end Dials

/-- Reading the key is all that may come before. -/
theorem Offers.each {P : TunnelDeed → Prop} {ds : List TunnelDeed} {auth : List AuthMethod}
    (offers : t.Offers ds auth) (reads : ∀ key, P (.world (.readKey t.options.privateKey) key)) :
    ∀ d ∈ ds, P d := by
  cases offers with
  | unkeyed _ => exact List.forall_mem_nil _
  | keyed _ => exact List.forall_mem_singleton.mpr (reads _)

namespace Rises

variable {ds : List TunnelDeed} {r : Except TunnelError Unit}

/-- Nothing but the result is told. -/
theorem quiet (rises : t.Rises ds r) : ∀ d ∈ ds, d.1.reports = false := by
  have both {key dials : List TunnelDeed} {auth : List AuthMethod} {r : Except TunnelError Unit}
      (offers : t.Offers key auth) (dialed : t.Dials auth t.tries dials r) :
      ∀ d ∈ key ++ dials, d.1.reports = false :=
    List.forall_mem_append.mpr
      ⟨offers.each fun _ => rfl, dialed.each (fun _ => rfl) rfl fun _ => rfl⟩
  cases rises with
  | unreadable _ => exact List.forall_mem_singleton.mpr rfl
  | undialed offers dialed => exact both offers dialed
  | unheard offers dialed | up offers dialed =>
    exact List.forall_mem_append.mpr ⟨both offers dialed, List.forall_mem_singleton.mpr rfl⟩
  | shut offers dialed =>
    exact List.forall_mem_append.mpr ⟨both offers dialed,
      List.forall_mem_cons.mpr ⟨rfl, List.forall_mem_singleton.mpr rfl⟩⟩

/-- A listener of a tunnel that is not up is closed again. -/
theorem closed (rises : t.Rises ds r) (down : r ≠ .ok ()) {listener : ListenerRef} :
    ∀ d ∈ ds, d.1.opened? d.2 = some listener → ∃ d' ∈ ds, d'.1.closed? = some listener := by
  have both {key dials : List TunnelDeed} {auth : List AuthMethod} {r : Except TunnelError Unit}
      (offers : t.Offers key auth) (dialed : t.Dials auth t.tries dials r) :
      ∀ d ∈ key ++ dials, d.1.opened? d.2 = none :=
    List.forall_mem_append.mpr
      ⟨offers.each fun _ => rfl, dialed.each (fun _ => rfl) rfl fun _ => rfl⟩
  intro d mem opened
  cases rises with
  | unreadable _ =>
    cases List.mem_singleton.mp mem
    cases opened
  | undialed offers dialed => exact nomatch (both offers dialed d mem).symm.trans opened
  | unheard offers dialed =>
    rcases List.mem_append.mp mem with mem | mem
    · exact nomatch (both offers dialed d mem).symm.trans opened
    · cases List.mem_singleton.mp mem
      cases opened
  | shut offers dialed =>
    refine ⟨_, List.mem_append_right _ (List.mem_cons_of_mem _ List.mem_cons_self), ?_⟩
    rcases List.mem_append.mp mem with mem | mem
    · exact nomatch (both offers dialed d mem).symm.trans opened
    · rcases List.mem_cons.mp mem with rfl | mem
      · exact opened
      · cases List.mem_singleton.mp mem
        cases opened
  | up _ _ => exact absurd rfl down

/-- The error of a tunnel that may dial moves it. -/
theorem isSome_stateAfter {e : TunnelError} (rises : t.Rises ds (.error e)) :
    (stateAfter e).isSome = true := by
  cases rises with
  | undialed offers dialed => cases dialed <;> rfl
  | _ => rfl

end Rises

/-! ## The runs -/

variable {σ : Type} {env : Environment tunnelSteps σ} {s s' : σ} {ms : List (Moment tunnelSteps σ)}

theorem runs_attempt_iff {α : Type} {error : StreamError → TunnelError}
    {program : TunnelProgram (Except StreamError α)} {r : Except TunnelError α} :
    Program.Runs env (attempt error program).run s ms r s' ↔
      ∃ answer, r = answer.mapError error ∧ Program.Runs env program s ms answer s' :=
  Program.runs_map_iff

/-- Where a step that may fail comes first, its failure ends the sequence. -/
theorem runs_attempt_bind_iff {α β : Type} {error : StreamError → TunnelError}
    {program : TunnelProgram (Except StreamError α)} {f : α → TunnelAction β}
    {r : Except TunnelError β} :
    Program.Runs env (attempt error program >>= f).run s ms r s' ↔
      (∃ e, r = .error (error e) ∧ Program.Runs env program s ms (.error e) s') ∨
      ∃ a s₁ ms₁ ms₂, ms = ms₁ ++ ms₂ ∧ Program.Runs env program s ms₁ (.ok a) s₁ ∧
        Program.Runs env (f a).run s₁ ms₂ r s' := by
  rw [Program.runs_run_bind_iff]
  constructor
  · rintro (⟨_, rfl, went⟩ | ⟨a, s₁, ms₁, ms₂, rfl, went, rest⟩)
    · obtain ⟨e | _, heq, run⟩ := runs_attempt_iff.mp went
      · cases heq
        exact .inl ⟨e, rfl, run⟩
      · cases heq
    · obtain ⟨_ | _, heq, run⟩ := runs_attempt_iff.mp went
      · cases heq
      · cases heq
        exact .inr ⟨_, s₁, ms₁, ms₂, rfl, run, rest⟩
  · rintro (⟨e, rfl, run⟩ | ⟨a, s₁, ms₁, ms₂, rfl, run, rest⟩)
    · exact .inl ⟨error e, rfl, runs_attempt_iff.mpr ⟨_, rfl, run⟩⟩
    · exact .inr ⟨a, s₁, ms₁, ms₂, rfl, runs_attempt_iff.mpr ⟨_, rfl, run⟩, rest⟩

theorem moveTo_of_runs {next : TunnelState} {u : Unit}
    (went : Program.Runs env (moveTo next) s ms u s') :
    ∃ moved, ms = [⟨s, .move next, moved⟩] ∧ env s (.move next) moved s' := by
  obtain ⟨moved, s₁, _, rfl, taken, run⟩ := Program.runs_question_bind_iff.mp went
  obtain ⟨rfl, -, rfl⟩ := Program.runs_pure_iff.mp run
  exact ⟨moved, rfl, taken⟩

/-- The key is read, or nothing is done. -/
theorem keyMethods_of_runs {r : Except TunnelError (List AuthMethod)}
    (went : Program.Runs env t.keyMethods.run s ms r s') :
    (∃ keys, r = .ok keys ∧ t.Offers (ofMoments ms) (keys ++ t.passwordMethods)) ∨
      ∃ e, r = .error e ∧ t.Rises (ofMoments ms) (.error e) := by
  unfold keyMethods at went
  split at went
  case isTrue unnamed =>
    obtain ⟨rfl, rfl, rfl⟩ := Program.runs_run_pure_iff.mp went
    exact .inl ⟨_, rfl, .unkeyed unnamed⟩
  case isFalse named =>
    obtain ⟨e, rfl, read⟩ | ⟨key, s₁, _, _, rfl, read, run⟩ := runs_attempt_bind_iff.mp went
    · obtain ⟨rfl, -⟩ := Program.runs_question_iff.mp read
      exact .inr ⟨_, rfl, .unreadable named⟩
    · obtain ⟨rfl, -⟩ := Program.runs_question_iff.mp read
      obtain ⟨rfl, rfl, rfl⟩ := Program.runs_run_pure_iff.mp run
      exact .inl ⟨_, rfl, .keyed named⟩

/-- The password is offered behind the key. -/
theorem authMethods_of_runs {r : Except TunnelError (List AuthMethod)}
    (went : Program.Runs env t.authMethods.run s ms r s') :
    (∃ auth, r = .ok auth ∧ t.Offers (ofMoments ms) auth) ∨
      ∃ e, r = .error e ∧ t.Rises (ofMoments ms) (.error e) := by
  obtain ⟨e, rfl, failed⟩ | ⟨keys, s₁, ms₁, ms₂, rfl, read, run⟩ :=
    Program.runs_run_bind_iff.mp went
  · obtain ⟨_, heq, -⟩ | unread := keyMethods_of_runs failed
    · cases heq
    · exact .inr unread
  · obtain ⟨_, heq, offers⟩ | ⟨_, heq, -⟩ := keyMethods_of_runs read
    · cases heq
      have offered : ms₂ = [] ∧ r = .ok (keys ++ t.passwordMethods) ∧ s' = s₁ := by
        unfold passwordMethods
        dsimp only at run
        split at run
        case isTrue none =>
          rw [if_pos none, List.append_nil]
          exact Program.runs_run_pure_iff.mp run
        case isFalse some =>
          rw [if_neg some]
          exact Program.runs_run_pure_iff.mp run
      obtain ⟨rfl, rfl, rfl⟩ := offered
      rw [List.append_nil]
      exact .inl ⟨_, rfl, offers⟩
    · cases heq

/-- The remote server is dialed as often as is left, unless it turns out that the tunnel was asked
to stop. -/
theorem dialFrom_of_runs {auth : List AuthMethod} {left made : Nat} {r : Except TunnelError Unit}
    (went : Program.Runs env (t.dialFrom auth left made).run s ms r s')
    (count : made + left + 1 = t.tries) : t.Dials auth (left + 1) (ofMoments ms) r := by
  induction left generalizing made s ms with
  | zero =>
    obtain ⟨dialed, rfl, run⟩ := runs_attempt_iff.mp went
    obtain ⟨rfl, -⟩ := Program.runs_question_iff.mp run
    cases dialed with
    | ok _ => exact .at_once
    | error e =>
      show t.Dials auth 1 _ (.error (.dial (made + 1) e))
      rw [show made + 1 = t.tries from count]
      exact .in_vain
  | succ left ih =>
    obtain ⟨dialed, s₁, _, rfl, -, run⟩ := Program.runs_run_question_bind_iff.mp went
    cases dialed with
    | ok _ =>
      obtain ⟨rfl, rfl, rfl⟩ := Program.runs_run_pure_iff.mp run
      exact .at_once
    | error e =>
      obtain ⟨_, s₂, _, rfl, -, run⟩ := Program.runs_run_question_bind_iff.mp run
      obtain ⟨stop, s₃, rest, rfl, -, run⟩ := Program.runs_run_question_bind_iff.mp run
      cases stop with
      | true =>
        obtain ⟨rfl, rfl, rfl⟩ := Program.runs_run_throw_iff.mp run
        exact .given_up
      | false => exact (ih run (by omega)).miss

theorem dial_of_runs {auth : List AuthMethod} {r : Except TunnelError Unit}
    (went : Program.Runs env (t.dial auth).run s ms r s') :
    t.Dials auth t.tries (ofMoments ms) r := by
  have count : 0 + (t.policy.maxTries.toNat - 1) + 1 = t.tries := by
    unfold tries
    omega
  have left : t.policy.maxTries.toNat - 1 + 1 = t.tries := by omega
  rw [← left]
  exact dialFrom_of_runs went count

/-- A tunnel that may dial goes through the steps in which it is brought up, or not. -/
theorem openUp_of_runs {r : Except TunnelError Unit}
    (went : Program.Runs env t.openUp.run s ms r s') :
    (∃ state, r = .error (.invalidState state)) ∧ (∀ m ∈ ms, m.question.dials m.answer = false) ∨
      t.Rises (ofMoments ms) r := by
  obtain ⟨mayDial, s₁, _, rfl, -, keying⟩ := Program.runs_run_question_bind_iff.mp went
  cases mayDial
  case false =>
    obtain ⟨state, s₂, _, rfl, -, throwing⟩ := Program.runs_run_question_bind_iff.mp keying
    obtain ⟨rfl, rfl, rfl⟩ := Program.runs_run_throw_iff.mp throwing
    exact .inl ⟨⟨_, rfl⟩, List.forall_mem_cons.mpr ⟨rfl, List.forall_mem_singleton.mpr rfl⟩⟩
  right
  -- The key comes first, and may be unreadable.
  obtain ⟨e, rfl, failed⟩ | ⟨auth, s₂, key, _, rfl, read, dialing⟩ :=
    Program.runs_run_bind_iff.mp keying
  · obtain ⟨_, heq, -⟩ | ⟨_, heq, rises⟩ := authMethods_of_runs failed
    · cases heq
    · cases heq
      exact rises
  obtain ⟨_, heq, offers⟩ | ⟨_, heq, -⟩ := authMethods_of_runs read
  case inr => cases heq
  cases heq
  -- Then the remote server is dialed.
  obtain ⟨e, rfl, failed⟩ | ⟨_, s₃, dials, _, rfl, dialed, listening⟩ :=
    Program.runs_run_bind_iff.mp dialing
  · rw [ofMoments_move, ofMoments_append]
    exact .undialed offers (dial_of_runs failed)
  replace dialed := dial_of_runs dialed
  rw [ofMoments_move, ofMoments_append, ofMoments_append, ← List.append_assoc]
  -- It listens, and the listener is kept or closed again.
  obtain ⟨e, rfl, failed⟩ | ⟨listener, s₄, _, _, rfl, heard, keeping⟩ :=
    runs_attempt_bind_iff.mp listening
  · obtain ⟨rfl, -⟩ := Program.runs_question_iff.mp failed
    exact .unheard offers dialed
  obtain ⟨rfl, -⟩ := Program.runs_question_iff.mp heard
  obtain ⟨kept, s₅, _, rfl, -, ending⟩ := Program.runs_run_question_bind_iff.mp keeping
  cases kept with
  | true =>
    obtain ⟨_, rfl, moving⟩ := Program.runs_run_lift_iff.mp ending
    obtain ⟨moved, rfl, -⟩ := moveTo_of_runs moving
    exact .up offers dialed
  | false =>
    obtain ⟨closed, s₆, _, rfl, -, throwing⟩ := Program.runs_run_question_bind_iff.mp ending
    obtain ⟨rfl, rfl, rfl⟩ := Program.runs_run_throw_iff.mp throwing
    exact .shut offers dialed

/-! ## The start -/

/-- What a start does when it has told that the tunnel is up. -/
def serveUp (t : Tunnel) (patience : Nat) : TunnelProgram TunnelRun := do
  let mayForward : Bool ← step (.move .forwarding)
  let run ← if mayForward then t.acceptLoop patience else pure .ended
  if run = .ended then moveTo .stopped
  return run

/-- How a start goes: it tells that the tunnel is not up and is over, or that it is up, and
serves. -/
inductive Goes (env : Environment tunnelSteps σ) (t : Tunnel) (patience : Nat) (s : σ) :
    List (Moment tunnelSteps σ) → TunnelRun → σ → Prop
  | down {opening moves : List (Moment tunnelSteps σ)} {s₁ s₂ s' : σ} {e : TunnelError}
    (opens : Program.Runs env t.openUp.run s opening (.error e) s₁)
    (moved : ∀ m ∈ moves, ∃ next, stateAfter e = some next ∧ m.question = .move next) :
    Goes env t patience s (opening ++ moves ++ [⟨s₂, .world (.ready (.error e)), ()⟩]) .ended s'
  | up {opening serving : List (Moment tunnelSteps σ)} {s₁ s₂ s' : σ} {run : TunnelRun}
    (opens : Program.Runs env t.openUp.run s opening (.ok ()) s₁)
    (tells : env s₁ (.world (.ready (.ok ()))) () s₂)
    (serves : Program.Runs env (t.serveUp patience) s₂ serving run s') :
    Goes env t patience s (opening ++ ⟨s₁, .world (.ready (.ok ())), ()⟩ :: serving) run s'

theorem start_of_runs {patience : Nat} {run : TunnelRun}
    (went : Program.Runs env (t.start patience) s ms run s') : Goes env t patience s ms run s' := by
  obtain ⟨r, s₁, opening, _, rfl, opens, telling⟩ := Program.runs_bind_iff.mp went
  cases r with
  | ok _ =>
    obtain ⟨_, s₂, serving, rfl, tells, serves⟩ := Program.runs_question_bind_iff.mp telling
    exact .up opens tells serves
  | error e =>
    obtain ⟨_, s₂, moves, _, rfl, moving, telling⟩ := Program.runs_bind_iff.mp telling
    obtain ⟨_, s₃, _, rfl, -, ending⟩ := Program.runs_question_bind_iff.mp telling
    obtain ⟨rfl, rfl, rfl⟩ := Program.runs_pure_iff.mp ending
    rw [← List.append_assoc]
    refine .down opens ?_
    cases falls : stateAfter e with
    | none =>
      rw [falls] at moving
      obtain ⟨rfl, -, -⟩ := Program.runs_pure_iff.mp moving
      exact List.forall_mem_nil _
    | some next =>
      rw [falls] at moving
      obtain ⟨moved, rfl, -⟩ := moveTo_of_runs moving
      exact List.forall_mem_singleton.mpr ⟨next, rfl, rfl⟩

end Tunnel

end VmDeploy
