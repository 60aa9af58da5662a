import VmDeploy.Config
import VmDeploy.Tunnel.Interface
import VmDeploy.Tunnel.Options

/-!
# Tunnels

A tunnel has a remote server listen and forwards what arrives there to a local
server. Starting it dials the remote server, several times if need be, listens
and then serves until somebody stops it. Whether it came up is told exactly
once, before it serves.

Stopping may come at any time. A tunnel that is asked to stop while it dials
does not come up; a listener that it opened nevertheless is closed again.

`start` is the thread of the deployer's SSH tunnel, with its `dial`, `open`,
`accept_loop` and `forward`, and `stop` is the call of another thread. What the
SSH session, the listener behind it and the local sockets do is asked of the
world (`TunnelNeed`).
-/

set_option autoImplicit false

namespace VmDeploy

/-- A tunnel: between what it forwards, and how it dials. -/
structure Tunnel where
  options : TunnelOptions
  policy : DialPolicy := {}
  deriving DecidableEq, Repr

/-- A program of a caller of a tunnel that may fail. -/
abbrev TunnelAction := ExceptT TunnelError TunnelProgram

/-- How far the start of a tunnel got. -/
inductive TunnelRun where
  /-- It is over. -/
  | ended
  /-- It serves, and nobody looks any more. -/
  | serving
  deriving DecidableEq, Repr

namespace Tunnel

/-- One step. -/
def step (s : TunnelStep) : TunnelProgram s.Answer := Program.question (I := tunnelSteps) s

/-- One question to the world. -/
def ask (need : TunnelNeed) : TunnelProgram need.Answer := step (.world need)

/-- Lets time pass. -/
def sleep (span : Duration) : TunnelProgram Unit := ask (.sleep span)

/-- A step whose failure is an error of the tunnel. -/
def attempt {α : Type} (error : StreamError → TunnelError)
    (program : TunnelProgram (Except StreamError α)) : TunnelAction α :=
  ExceptT.mk do return (← program).mapError error

variable (t : Tunnel)

/-- The key, if a key file is named. -/
def keyMethods : TunnelAction (List AuthMethod) :=
  if t.options.privateKey = "" then pure []
  else do
    let key : String ← attempt (.readPrivateKey t.options.privateKey)
      (ask (.readKey t.options.privateKey))
    return [.publicKey key]

/-- What is offered to the server: the key first, and a password both ways. -/
def authMethods : TunnelAction (List AuthMethod) := do
  let keys ← t.keyMethods
  let password := t.options.password
  if password = "" then return keys
  else return keys ++ [.keyboardInteractive password, .password password]

/-- The remote server. -/
def server : String := s!"{t.options.host}:{t.options.port}"

/-- Dials once more, and then at most `left` times, when `made` dials were made. -/
def dialFrom (auth : List AuthMethod) : (left : Nat) → (made : Nat) → TunnelAction Unit
  | 0, made => attempt (.dial (made + 1)) (ask (.connect t.server t.options.user auth))
  | left + 1, made => do
    let dialed : Except StreamError Unit ← ExceptT.lift
      (ask (.connect t.server t.options.user auth))
    match dialed with
    | .ok () => return ()
    | .error _ =>
      ExceptT.lift (sleep t.policy.delay)
      let stop : Bool ← ExceptT.lift (step .isAskedToStop)
      if stop then throw .stopped
      dialFrom auth left (made + 1)

/-- Dials at least once, and as often as the policy says. -/
def dial (auth : List AuthMethod) : TunnelAction Unit :=
  t.dialFrom auth (t.policy.maxTries.toNat - 1) 0

/-- Where the remote server listens. -/
def listenHost : String := "127.0.0.1"

/-- Moves to a state if that is allowed. -/
def moveTo (next : TunnelState) : TunnelProgram Unit := do
  let _ : Bool ← step (.move next)

/-- Everything up to an open listener. -/
def openUp : TunnelAction Unit := do
  let mayDial : Bool ← ExceptT.lift (step (.move .dialing))
  if ¬ mayDial then
    let state : TunnelState ← ExceptT.lift (step .state)
    throw (.invalidState state)
  let auth ← t.authMethods
  t.dial auth
  let listener : ListenerRef ← attempt .listen
    (ask (.listen listenHost t.options.remotePort))
  let kept : Bool ← ExceptT.lift (step (.keep listener))
  if ¬ kept then
    let _ : Except StreamError Unit ← ExceptT.lift (ask (.close listener))
    throw .stopped
  ExceptT.lift (moveTo .listening)

/-- How long a tunnel rests between two polls. -/
def pollInterval : Duration := .ofMillis 10

/-- Forwards a connection to the local server. That fails alike whether the server cannot be
reached or its connection cannot be used both ways. -/
def forward (connection : ConnectionRef) : TunnelProgram Unit := do
  let dialed : Except StreamError Unit ← ask (.dialLocal t.options.localPort)
  match dialed with
  | .error e => ask (.report (.dialLocal e))
  | .ok () =>
    let split : Except StreamError Unit ← ask .splitLocal
    match split with
    | .error e => ask (.report (.dialLocal e))
    | .ok () => ask (.forward connection)

/-- Serves what one poll yields. -/
def serve : Except StreamError (Option ConnectionRef) → TunnelProgram Unit
  | .ok (some connection) => t.forward connection
  | .ok none | .error .wouldBlock => sleep pollInterval
  | .error e => do
    ask (.report (.accept e))
    sleep pollInterval

/-- Serves until the tunnel is asked to stop. -/
def acceptLoop : (patience : Nat) → TunnelProgram TunnelRun
  | 0 => return .serving
  | patience + 1 => do
    let stop : Bool ← step .isAskedToStop
    if stop then return .ended
    else
      let polled : Option (Except StreamError (Option ConnectionRef)) ← step .poll
      match polled with
      | none => return .ended
      | some result =>
        t.serve result
        acceptLoop patience

/-- The state of a tunnel that did not come up, if the error moves it at all. -/
def stateAfter : TunnelError → Option TunnelState
  | .invalidState _ => none
  | .stopped => some .stopped
  | _ => some .failed

/-- Starts the tunnel and serves, for at most `patience` polls. -/
def start (patience : Nat) : TunnelProgram TunnelRun := do
  match ← t.openUp.run with
  | .error e =>
    (stateAfter e).forM moveTo
    ask (.ready (.error e))
    return .ended
  | .ok () =>
    ask (.ready (.ok ()))
    let mayForward : Bool ← step (.move .forwarding)
    let run ← if mayForward then t.acceptLoop patience else pure .ended
    if run = .ended then moveTo .stopped
    return run

/-- Asks the tunnel to stop and closes its listener. -/
def stop : TunnelAction Unit := do
  ExceptT.lift (step .askToStop)
  ExceptT.lift (moveTo .stopped)
  let listener : Option ListenerRef ← ExceptT.lift (step .take)
  match listener with
  | none => return ()
  | some listener => attempt .close (ask (.close listener))

end Tunnel

end VmDeploy
