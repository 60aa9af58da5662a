import VmDeploy.Tunnel.Basic

/-!
# The protocol of the callers of a tunnel

Whoever starts or stops a tunnel takes its steps in an order of which only a part matters to the
others: whether it may still dial, whether it holds a listener, why it does not bring the tunnel
up, what it told. That is the phase of a caller. `TunnelPhase.Moves` says which steps can be taken
in a phase and where an answer leads to; nothing is said of what the others do in between, so that
any answer has to be reckoned with.

That a program keeps to the protocol is `TunnelPhase.Obeys`, which has a law for each way to build
a program. `Tunnel.obeys_start` and `Tunnel.obeys_stop` say that both calls do.
-/

set_option autoImplicit false

namespace VmDeploy

/-- How far a caller of a tunnel got. -/
inductive TunnelPhase where
  /-- It is about to start the tunnel. -/
  | fresh
  /-- It may not dial, and is about to look why. -/
  | refused
  /-- It dials. It may connect unless it has to look first whether it was asked to stop. -/
  | dialing (mayConnect : Bool)
  /-- It is connected and is about to listen. -/
  | connected
  /-- It opened a listener and did not put it into the slot yet. -/
  | opened (listener : ListenerRef)
  /-- It could not put its listener into the slot and is about to close it. -/
  | unkept (listener : ListenerRef)
  /-- Its listener is in the slot. -/
  | kept
  /-- It is about to say that the tunnel is up. -/
  | risen
  /-- It does not bring the tunnel up, and has not moved it yet. -/
  | failing (e : TunnelError)
  /-- It did not bring the tunnel up, has tried to move it, and is about to say so. -/
  | fallen (e : TunnelError)
  /-- It told how the start went. -/
  | told (result : Except TunnelError Unit)
  /-- It is about to stop the tunnel. -/
  | waiting
  /-- It asked the tunnel to stop. -/
  | asked
  /-- It has tried to move the tunnel, too. -/
  | marked
  /-- It took a listener out of the slot and is about to close it. -/
  | taken (listener : ListenerRef)
  /-- It has stopped the tunnel. -/
  | halted

/-- How a call ended. -/
inductive CallEnd where
  | started (run : TunnelRun)
  | stopped (result : Except TunnelError Unit)

namespace TunnelPhase

/-- Steps of a tunnel that serves, or that serves no more. -/
def serves : TunnelStep → Bool
  | .move .forwarding | .move .stopped | .isAskedToStop | .poll => true
  | .world (.dialLocal _) | .world .splitLocal | .world (.forward _) => true
  | .world (.sleep _) | .world (.report _) => true
  | _ => false

/-- The steps of a phase, and the phase to which an answer leads. -/
inductive Moves : TunnelPhase → (step : TunnelStep) → step.Answer → TunnelPhase → Prop
  | dial : Moves .fresh (.move .dialing) true (.dialing true)
  | refuse : Moves .fresh (.move .dialing) false .refused
  | lookBack {state : TunnelState} : Moves .refused .state state (.failing (.invalidState state))
  | readKey {mayConnect : Bool} {path key : String} :
    Moves (.dialing mayConnect) (.world (.readKey path)) (.ok key) (.dialing mayConnect)
  | missKey {mayConnect : Bool} {path : String} {e : StreamError} :
    Moves (.dialing mayConnect) (.world (.readKey path)) (.error e)
      (.failing (.readPrivateKey path e))
  | connect {server user : String} {auth : List AuthMethod} :
    Moves (.dialing true) (.world (.connect server user auth)) (.ok ()) .connected
  | missConnect {server user : String} {auth : List AuthMethod} {e : StreamError} :
    Moves (.dialing true) (.world (.connect server user auth)) (.error e) (.dialing false)
  | lose {server user : String} {auth : List AuthMethod} {e : StreamError} {made : Nat} :
    Moves (.dialing true) (.world (.connect server user auth)) (.error e) (.failing (.dial made e))
  | rest {mayConnect : Bool} {span : Duration} :
    Moves (.dialing mayConnect) (.world (.sleep span)) () (.dialing mayConnect)
  | goOn {mayConnect : Bool} : Moves (.dialing mayConnect) .isAskedToStop false (.dialing true)
  | giveUp {mayConnect : Bool} : Moves (.dialing mayConnect) .isAskedToStop true (.failing .stopped)
  | listen {host : String} {port : UInt16} {listener : ListenerRef} :
    Moves .connected (.world (.listen host port)) (.ok listener) (.opened listener)
  | missListen {host : String} {port : UInt16} {e : StreamError} :
    Moves .connected (.world (.listen host port)) (.error e) (.failing (.listen e))
  | keep {listener : ListenerRef} : Moves (.opened listener) (.keep listener) true .kept
  | missKeep {listener : ListenerRef} :
    Moves (.opened listener) (.keep listener) false (.unkept listener)
  | closeUnkept {listener : ListenerRef} {closed : Except StreamError Unit} :
    Moves (.unkept listener) (.world (.close listener)) closed (.failing .stopped)
  | rise {moved : Bool} : Moves .kept (.move .listening) moved .risen
  | tellUp : Moves .risen (.world (.ready (.ok ()))) () (.told (.ok ()))
  | fall {e : TunnelError} {next : TunnelState} {moved : Bool}
    (down : Tunnel.stateAfter e = some next) : Moves (.failing e) (.move next) moved (.fallen e)
  | tellRefused {e : TunnelError} (stays : Tunnel.stateAfter e = none) :
    Moves (.failing e) (.world (.ready (.error e))) () (.told (.error e))
  | tellFallen {e : TunnelError} :
    Moves (.fallen e) (.world (.ready (.error e))) () (.told (.error e))
  | serve {step : TunnelStep} {answer : step.Answer} (serving : serves step = true) :
    Moves (.told (.ok ())) step answer (.told (.ok ()))
  | ask : Moves .waiting .askToStop () .asked
  | mark {moved : Bool} : Moves .asked (.move .stopped) moved .marked
  | takeNone : Moves .marked .take none .halted
  | take {listener : ListenerRef} : Moves .marked .take (some listener) (.taken listener)
  | close {listener : ListenerRef} {closed : Except StreamError Unit} :
    Moves (.taken listener) (.world (.close listener)) closed .halted

/-- A program that starts in a phase keeps to the protocol, whatever it is answered, and something
holds of its value and of the phase in which it ends. -/
def Obeys {α : Type} : TunnelPhase → TunnelProgram α → (α → TunnelPhase → Prop) → Prop
  | p, .done a, Q => Q a p
  | p, .ask step next, Q => ∀ answer, ∃ p', Moves p step answer p' ∧ p'.Obeys (next answer) Q

namespace Obeys

variable {α β : Type} {p : TunnelPhase} {x : TunnelProgram α} {f : α → TunnelProgram β}

theorem mono {P Q : α → TunnelPhase → Prop} (obeys : p.Obeys x P)
    (weaker : ∀ a p, P a p → Q a p) : p.Obeys x Q := by
  induction x generalizing p with
  | done a => exact weaker a p obeys
  | ask step next ih =>
    intro answer
    obtain ⟨p', moves, rest⟩ := obeys answer
    exact ⟨p', moves, ih answer rest⟩

theorem bind_iff {Q : β → TunnelPhase → Prop} :
    p.Obeys (x >>= f) Q ↔ p.Obeys x fun a p' => p'.Obeys (f a) Q := by
  show p.Obeys (x.bind f) Q ↔ _
  induction x generalizing p with
  | done a => exact Iff.rfl
  | ask step next ih =>
    exact forall_congr' fun answer => exists_congr fun p' => and_congr_right fun _ => ih answer

/-- A single step. -/
theorem step {s : TunnelStep} {Q : s.Answer → TunnelPhase → Prop}
    (each : ∀ answer, ∃ p', Moves p s answer p' ∧ Q answer p') : p.Obeys (Tunnel.step s) Q :=
  each

variable {y : TunnelAction α} {g : α → TunnelAction β}

/-- Something that may fail ends the sequence if it does. -/
theorem run_bind_iff {Q : Except TunnelError β → TunnelPhase → Prop} :
    p.Obeys (y >>= g).run Q ↔ p.Obeys y.run fun
      | .ok a, p' => p'.Obeys (g a).run Q
      | .error e, p' => Q (.error e) p' := by
  rw [ExceptT.run_bind, bind_iff]
  constructor
  · refine fun obeys => obeys.mono ?_
    rintro (e | a) p' rest
    · exact rest
    · exact rest
  · refine fun obeys => obeys.mono ?_
    rintro (e | a) p' rest
    · exact rest
    · exact rest

theorem run_lift {Q : Except TunnelError α → TunnelPhase → Prop}
    (obeys : p.Obeys x fun a p' => Q (.ok a) p') :
    p.Obeys (ExceptT.lift x : TunnelAction α).run Q :=
  bind_iff.mpr obeys

theorem run_attempt {error : StreamError → TunnelError} {x : TunnelProgram (Except StreamError α)}
    {Q : Except TunnelError α → TunnelPhase → Prop}
    (obeys : p.Obeys x fun r p' => Q (r.mapError error) p') :
    p.Obeys (Tunnel.attempt error x).run Q :=
  bind_iff.mpr obeys

end Obeys

end TunnelPhase

namespace Tunnel

open TunnelPhase (Obeys Moves)

variable {t : Tunnel}

/-- Reading the key is a part of dialing. -/
theorem obeys_authMethods {mayConnect : Bool} :
    (TunnelPhase.dialing mayConnect).Obeys t.authMethods.run
      fun
        | .ok _, p => p = .dialing mayConnect
        | .error e, p => p = .failing e := by
  have keys : (TunnelPhase.dialing mayConnect).Obeys t.keyMethods.run
      fun
        | .ok _, p => p = .dialing mayConnect
        | .error e, p => p = .failing e := by
    unfold keyMethods
    split
    · exact rfl
    · refine Obeys.run_bind_iff.mpr (.run_attempt (.step fun key => ?_))
      cases key with
      | error _ => exact ⟨_, .missKey, rfl⟩
      | ok _ => exact ⟨_, .readKey, rfl⟩
  unfold authMethods
  refine Obeys.run_bind_iff.mpr (keys.mono ?_)
  rintro (e | keys) p rfl
  · exact rfl
  · dsimp only
    split
    · exact rfl
    · exact rfl

/-- Whoever dials looks between two attempts whether the tunnel was asked to stop. -/
theorem obeys_dialFrom {auth : List AuthMethod} (left made : Nat) :
    (TunnelPhase.dialing true).Obeys (t.dialFrom auth left made).run
      fun
        | .ok _, p => p = .connected
        | .error e, p => p = .failing e := by
  induction left generalizing made with
  | zero =>
    unfold dialFrom
    refine .run_attempt (.step fun dialed => ?_)
    cases dialed with
    | error e => exact ⟨_, .lose, rfl⟩
    | ok _ => exact ⟨_, .connect, rfl⟩
  | succ left ih =>
    unfold dialFrom
    refine Obeys.run_bind_iff.mpr (.run_lift (.step fun dialed => ?_))
    cases dialed with
    | ok _ => exact ⟨_, .connect, rfl⟩
    | error e =>
      refine ⟨_, .missConnect, ?_⟩
      refine Obeys.run_bind_iff.mpr (.run_lift (.step fun _ => ⟨_, .rest, ?_⟩))
      refine Obeys.run_bind_iff.mpr (.run_lift (.step fun stop => ?_))
      cases stop with
      | true => exact ⟨_, .giveUp, rfl⟩
      | false => exact ⟨_, .goOn, ih (made + 1)⟩

/-- What comes before a start tells its result. -/
theorem obeys_openUp : TunnelPhase.fresh.Obeys t.openUp.run
    fun
      | .ok _, p => p = .risen
      | .error e, p => p = .failing e := by
  unfold openUp
  refine Obeys.run_bind_iff.mpr (.run_lift (.step fun mayDial => ?_))
  cases mayDial with
  | false =>
    refine ⟨_, .refuse, ?_⟩
    refine Obeys.run_bind_iff.mpr (.run_lift (.step fun state => ⟨_, .lookBack, rfl⟩))
  | true =>
    refine ⟨_, .dial, ?_⟩
    refine Obeys.run_bind_iff.mpr (obeys_authMethods.mono ?_)
    rintro (e | auth) p rfl
    · exact rfl
    refine Obeys.run_bind_iff.mpr ((obeys_dialFrom _ _).mono ?_)
    rintro (e | _) p rfl
    · exact rfl
    refine Obeys.run_bind_iff.mpr (.run_attempt (.step fun listens => ?_))
    cases listens with
    | error e => exact ⟨_, .missListen, rfl⟩
    | ok listener =>
      refine ⟨_, .listen, ?_⟩
      refine Obeys.run_bind_iff.mpr (.run_lift (.step fun kept => ?_))
      cases kept with
      | true => exact ⟨_, .keep, .step fun _ => ⟨_, .rise, rfl⟩⟩
      | false =>
        refine ⟨_, .missKeep, ?_⟩
        exact Obeys.run_bind_iff.mpr (.run_lift (.step fun _ => ⟨_, .closeUnkept, rfl⟩))

/-- A tunnel that serves takes none of the steps that matter before. -/
theorem obeys_serve {polled : Except StreamError (Option ConnectionRef)} :
    (TunnelPhase.told (.ok ())).Obeys (t.serve polled) fun _ p => p = .told (.ok ()) := by
  unfold serve
  split
  · refine Obeys.bind_iff.mpr (.step fun dialed => ⟨_, .serve rfl, ?_⟩)
    cases dialed with
    | error e => exact .step fun _ => ⟨_, .serve rfl, rfl⟩
    | ok _ =>
      refine Obeys.bind_iff.mpr (.step fun split => ⟨_, .serve rfl, ?_⟩)
      cases split with
      | error e => exact .step fun _ => ⟨_, .serve rfl, rfl⟩
      | ok _ => exact .step fun _ => ⟨_, .serve rfl, rfl⟩
  · exact .step fun _ => ⟨_, .serve rfl, rfl⟩
  · exact .step fun _ => ⟨_, .serve rfl, rfl⟩
  · refine Obeys.bind_iff.mpr (.step fun _ => ⟨_, .serve rfl, ?_⟩)
    exact .step fun _ => ⟨_, .serve rfl, rfl⟩

theorem obeys_acceptLoop (patience : Nat) :
    (TunnelPhase.told (.ok ())).Obeys (t.acceptLoop patience) fun _ p => p = .told (.ok ()) := by
  induction patience with
  | zero => exact rfl
  | succ patience ih =>
    unfold acceptLoop
    refine Obeys.bind_iff.mpr (.step fun stop => ⟨_, .serve rfl, ?_⟩)
    cases stop with
    | true => exact rfl
    | false =>
      refine Obeys.bind_iff.mpr (.step fun polled => ⟨_, .serve rfl, ?_⟩)
      cases polled with
      | none => exact rfl
      | some result =>
        refine Obeys.bind_iff.mpr (obeys_serve.mono ?_)
        rintro _ p rfl
        exact ih

/-- A tunnel that does not come up is moved, if its error moves it, and then that error is told. -/
theorem obeys_fall {e : TunnelError} :
    (TunnelPhase.failing e).Obeys
      ((stateAfter e).forM moveTo >>= fun _ => ask (.ready (.error e)))
      fun _ p => p = .told (.error e) := by
  cases down : stateAfter e with
  | none => exact .step fun _ => ⟨_, .tellRefused down, rfl⟩
  | some next =>
    refine Obeys.bind_iff.mpr (.step fun _ => ⟨_, .fall down, ?_⟩)
    exact .step fun _ => ⟨_, .tellFallen, rfl⟩

/-- Whoever starts a tunnel keeps to the protocol, and has told the result at its end. -/
theorem obeys_start (patience : Nat) :
    TunnelPhase.fresh.Obeys (t.start patience) fun _ p => ∃ result, p = .told result := by
  unfold start
  refine Obeys.bind_iff.mpr (obeys_openUp.mono ?_)
  rintro (e | _) p rfl
  · refine Obeys.bind_iff.mpr (Obeys.bind_iff.mp obeys_fall |>.mono fun _ p tells => ?_)
    exact Obeys.bind_iff.mpr (tells.mono fun _ p told => ⟨_, told⟩)
  · refine Obeys.bind_iff.mpr (.step fun _ => ⟨_, .tellUp, ?_⟩)
    refine Obeys.bind_iff.mpr (.step fun mayForward => ⟨_, .serve rfl, ?_⟩)
    cases mayForward with
    | false => exact Obeys.bind_iff.mpr (.step fun _ => ⟨_, .serve rfl, _, rfl⟩)
    | true =>
      show (TunnelPhase.told (.ok ())).Obeys (t.acceptLoop patience >>= fun run => _) _
      refine Obeys.bind_iff.mpr ((obeys_acceptLoop patience).mono ?_)
      rintro (_ | _) p rfl
      · exact Obeys.bind_iff.mpr (.step fun _ => ⟨_, .serve rfl, _, rfl⟩)
      · exact ⟨_, rfl⟩

/-- Whoever stops a tunnel keeps to the protocol. -/
theorem obeys_stop : TunnelPhase.waiting.Obeys stop.run fun _ p => p = .halted := by
  unfold stop
  refine Obeys.run_bind_iff.mpr (.run_lift (.step fun _ => ⟨_, .ask, ?_⟩))
  refine Obeys.run_bind_iff.mpr (.run_lift (.step fun _ => ⟨_, .mark, ?_⟩))
  refine Obeys.run_bind_iff.mpr (.run_lift (.step fun listener => ?_))
  cases listener with
  | none => exact ⟨_, .takeNone, rfl⟩
  | some listener => exact ⟨_, .take, .run_attempt (.step fun _ => ⟨_, .close, rfl⟩)⟩

end Tunnel

end VmDeploy
