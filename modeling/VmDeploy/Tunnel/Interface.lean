import VmDeploy.Program
import VmDeploy.Time.Duration
import VmDeploy.Tunnel.Error

/-!
# What a tunnel works with

Several callers may start and stop one tunnel at the same time. What they
share is its state, the slot that holds the open listener, and the flag that
asks to stop; each question about these is one step that nobody can get in
between. The rest is the world around the tunnel: the key file, the remote
server, the local server, the slot in which readiness is told, and the channel
for errors.
-/

set_option autoImplicit false

namespace VmDeploy

/-- A proof of identity that is offered to the server. -/
inductive AuthMethod where
  | publicKey (privateKey : String)
  | keyboardInteractive (password : String)
  | password (password : String)
  deriving DecidableEq, Repr

/-- Tells listeners on the remote server apart. -/
structure ListenerRef where
  index : Nat
  deriving DecidableEq, Repr, Inhabited

/-- Tells accepted connections apart. -/
structure ConnectionRef where
  index : Nat
  deriving DecidableEq, Repr, Inhabited

/-- What a tunnel asks of the world around it. -/
inductive TunnelNeed where
  | readKey (path : String)
  | connect (server user : String) (auth : List AuthMethod)
  | listen (host : String) (port : UInt16)
  | accept (listener : ListenerRef)
  | close (listener : ListenerRef)
  /-- Connects to the local server. -/
  | dialLocal (port : UInt16)
  /-- Takes a second handle on the local connection, so that it can be read and written at once. -/
  | splitLocal
  /-- Copies a connection and the local one to each other from now on. -/
  | forward (connection : ConnectionRef)
  | sleep (span : Duration)
  /-- Tells an error that does not end the tunnel. -/
  | report (error : TunnelError)
  /-- Tells whether the tunnel is up. -/
  | ready (result : Except TunnelError Unit)

/-- What the world answers. -/
def TunnelNeed.Answer : TunnelNeed → Type
  | .readKey _ => Except StreamError String
  | .connect _ _ _ => Except StreamError Unit
  | .listen _ _ => Except StreamError ListenerRef
  | .accept _ => Except StreamError (Option ConnectionRef)
  | .close _ => Except StreamError Unit
  | .dialLocal _ | .splitLocal => Except StreamError Unit
  | .forward _ | .sleep _ | .report _ | .ready _ => Unit

/-- The world around a tunnel. -/
def tunnelWorld : Interface := ⟨TunnelNeed, TunnelNeed.Answer⟩

/-- The steps of the callers of a tunnel. -/
inductive TunnelStep where
  /-- Moves to a state if that is allowed, and tells whether it was. -/
  | move (next : TunnelState)
  | state
  | askToStop
  | isAskedToStop
  /-- Puts a listener into the slot, unless the tunnel was asked to stop; tells whether
  the listener was put there. The slot is locked from the look for a stop on, so nobody can tell
  that the listener is not there yet. -/
  | keep (listener : ListenerRef)
  /-- Takes the listener out of the slot. -/
  | take
  /-- Polls the listener in the slot, if there is one. -/
  | poll
  | world (need : TunnelNeed)

/-- What a step results in. -/
def TunnelStep.Answer : TunnelStep → Type
  | .move _ => Bool
  | .state => TunnelState
  | .askToStop => Unit
  | .isAskedToStop => Bool
  | .keep _ => Bool
  | .take => Option ListenerRef
  | .poll => Option (Except StreamError (Option ConnectionRef))
  | .world need => need.Answer

/-- What the callers of a tunnel can do. -/
def tunnelSteps : Interface := ⟨TunnelStep, TunnelStep.Answer⟩

/-- A program of a caller of a tunnel. -/
abbrev TunnelProgram := Program tunnelSteps

/-- What the callers of a tunnel share. -/
structure TunnelCore where
  state : TunnelState := .created
  listener : Option ListenerRef := none
  stopping : Bool := false
  deriving DecidableEq, Repr, Inhabited

/-- The steps on a tunnel in a world. -/
def TunnelCore.handler {σ : Type} (world : Program.Handler tunnelWorld σ) :
    Program.Handler tunnelSteps (TunnelCore × σ)
  | .move next, (core, s) =>
    (core.state.canMoveTo next, { core with state := core.state.move next }, s)
  | .state, (core, s) => (core.state, core, s)
  | .askToStop, (core, s) => ((), { core with stopping := true }, s)
  | .isAskedToStop, (core, s) => (core.stopping, core, s)
  | .keep listener, (core, s) =>
    if core.stopping then (false, core, s) else (true, { core with listener := some listener }, s)
  | .take, (core, s) => (core.listener, { core with listener := none }, s)
  | .poll, (core, s) =>
    match core.listener with
    | none => (none, core, s)
    | some listener =>
      let (answer, s) := world (.accept listener) s
      (some answer, core, s)
  | .world need, (core, s) =>
    let (answer, s) := world need s
    (answer, core, s)

end VmDeploy
