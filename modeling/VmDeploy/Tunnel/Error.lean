import VmDeploy.Tunnel.State

/-!
# Tunnel errors

Most errors of a tunnel are errors of a stream or a connection, which are
named for what was being done.
-/

set_option autoImplicit false

namespace VmDeploy

/-- Why an operation on a stream or a connection failed. The first two are passing: the
operation may be tried again at once. -/
inductive StreamError where
  | wouldBlock
  | interrupted
  /-- A write took nothing. -/
  | writeZero
  | other (text : String)
  deriving DecidableEq, Repr

/-- The wording of an error. -/
def StreamError.message : StreamError → String
  | .wouldBlock => "operation would block"
  | .interrupted => "operation interrupted"
  | .writeZero => "write zero"
  | .other text => text

/-- Why a tunnel, or one of its connections, failed. -/
inductive TunnelError where
  | readPrivateKey (path : String) (source : StreamError)
  | dial (attempts : Nat) (source : StreamError)
  | listen (source : StreamError)
  | accept (source : StreamError)
  | dialLocal (source : StreamError)
  | copyLocalToRemote (source : StreamError)
  | copyRemoteToLocal (source : StreamError)
  | close (source : StreamError)
  | invalidState (state : TunnelState)
  | stopped
  deriving DecidableEq, Repr

namespace TunnelError

/-- What was being done, and the error of the stream if there is one. -/
def parts : TunnelError → String × Option StreamError
  | .readPrivateKey path source => (s!"Reading private key file '{path}'", some source)
  | .dial attempts source =>
    (s!"Timed out dialing remote server after {attempts} attempts", some source)
  | .listen source => ("Listening on remote server", some source)
  | .accept source => ("Accepting connection on remote server", some source)
  | .dialLocal source => ("Dialing local server", some source)
  | .copyLocalToRemote source => ("Copying bytes from local to remote", some source)
  | .copyRemoteToLocal source => ("Copying bytes from remote to local", some source)
  | .close source => ("Closing remote listener", some source)
  | .invalidState state => (s!"SSH tunnel cannot be started in state {state.text}", none)
  | .stopped => ("SSH tunnel was stopped before it was ready", none)

/-- The wording of an error. -/
def message (e : TunnelError) : String :=
  match e.parts with
  | (what, some source) => s!"{what}: {source.message}"
  | (what, none) => what

/-- The wordings of what caused an error. -/
def causes (e : TunnelError) : List String := (e.parts.2.map StreamError.message).toList

end TunnelError

end VmDeploy
