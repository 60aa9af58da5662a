import VmDeploy.Services

/-!
# Tunnels that forward nothing

A simulated tunnel is up as soon as it is started, unless it was told
otherwise when it was made: it may refuse to come up, report errors first,
leave without a word, or fail to stop.
-/

set_option autoImplicit false

namespace VmDeploy.Simulation

/-- How tunnels behave that are made from now on. -/
structure TunnelMode where
  /-- The starter leaves without a word. -/
  exits : Bool := false
  /-- Errors that are reported before the start. -/
  errors : List String := []
  stopFault : Option String := none
  deriving DecidableEq, Repr

/-- A simulated tunnel. -/
structure Tunnel where
  options : TunnelOptions
  mode : TunnelMode
  /-- Why it does not come up. -/
  readyFault : Option String
  starts : Nat := 0
  stops : Nat := 0
  deriving DecidableEq, Repr

namespace Tunnel

/-- The state of a tunnel. -/
def state (t : Tunnel) : TunnelState :=
  if 0 < t.stops then .stopped
  else if t.starts = 0 then .created
  else if t.readyFault.isSome then .failed
  else .forwarding

/-- Starts a tunnel. -/
def start (t : Tunnel) : TunnelStart × Tunnel :=
  let errors := t.mode.errors.map fun text => TunnelError.accept (.other text)
  if t.mode.exits then (⟨none, errors⟩, t)
  else
    let ready : Except TunnelError Unit :=
      match t.readyFault with
      | some text => .error (.listen (.other text))
      | none => .ok ()
    (⟨some ready, errors⟩, { t with starts := t.starts + 1 })

/-- Stops a tunnel. -/
def stop (t : Tunnel) : Except TunnelError Unit × Tunnel :=
  let result : Except TunnelError Unit :=
    match t.mode.stopFault with
    | some text => .error (.close (.other text))
    | none => .ok ()
  (result, { t with stops := t.stops + 1 })

end Tunnel

end VmDeploy.Simulation
