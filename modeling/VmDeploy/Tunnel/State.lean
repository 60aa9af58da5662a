/-!
# Tunnel states

A tunnel is used once. It dials, listens, forwards and is stopped; it fails
only before it forwards, and a stopped or failed tunnel stays what it is.
-/

set_option autoImplicit false

namespace VmDeploy

/-- Where a tunnel is in its life. -/
inductive TunnelState where
  | created
  | dialing
  | listening
  | forwarding
  | stopped
  | failed
  deriving DecidableEq, Repr, Inhabited

namespace TunnelState

/-- The name of a state. -/
def text : TunnelState → String
  | .created => "created"
  | .dialing => "dialing"
  | .listening => "listening"
  | .forwarding => "forwarding"
  | .stopped => "stopped"
  | .failed => "failed"

/-- All states. -/
def all : List TunnelState := [.created, .dialing, .listening, .forwarding, .stopped, .failed]

/-- The state of a name. -/
def parse? (s : String) : Option TunnelState := all.find? (·.text = s)

/-- Whether a tunnel may move from one state to another. -/
def canMoveTo : TunnelState → TunnelState → Bool
  | .created, .dialing => true
  | .created, .stopped => true
  | .dialing, .listening => true
  | .dialing, .failed => true
  | .dialing, .stopped => true
  | .listening, .forwarding => true
  | .listening, .failed => true
  | .listening, .stopped => true
  | .forwarding, .stopped => true
  | _, _ => false

/-- The state behind a move, or the same state where the move is not allowed. -/
def move (current next : TunnelState) : TunnelState :=
  if current.canMoveTo next then next else current

/-- A stopped tunnel stays stopped. -/
@[simp] theorem move_stopped (next : TunnelState) : move .stopped next = .stopped := by
  cases next <;> rfl

/-- A failed tunnel stays failed. -/
@[simp] theorem move_failed (next : TunnelState) : move .failed next = .failed := by
  cases next <;> rfl

/-- Nothing leads back to a tunnel that is new. -/
theorem canMoveTo_created (s : TunnelState) : s.canMoveTo .created = false := by
  cases s <;> rfl

/-- Only a tunnel that is new is made to dial. -/
theorem eq_created_of_canMoveTo {s : TunnelState} (may : s.canMoveTo .dialing = true) :
    s = .created := by
  cases s with
  | created => rfl
  | _ => cases may

end TunnelState

end VmDeploy
