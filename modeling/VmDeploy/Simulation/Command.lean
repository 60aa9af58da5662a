import VmDeploy.Cloud.Command

/-!
# How a scripted command ends

A script ends a command with an exit code or by sending itself a signal. Not
every signal kills: some are ignored by whoever does not ask for them, and a
number behind the last signal is refused like a wrong argument.
-/

set_option autoImplicit false

namespace VmDeploy.CommandEnd

/-- Zero is no signal; those of children, continuing, urgent data, resized windows and of
stops by a terminal leave a process alone that has no terminal. -/
def harmlessSignals : List Nat := [0, 17, 18, 20, 21, 22, 23, 28]

/-- The number of the last signal. -/
def lastSignal : Nat := 64

/-- The end of a script with a wrong argument. -/
def wrongArgument : CommandEnd := .exited 2

/-- The end of a script that sends itself a signal. -/
def ofSignal (signal : Nat) : CommandEnd :=
  if signal ∈ harmlessSignals then .exited 0
  else if lastSignal < signal then wrongArgument
  else .killed signal

/-- The end of a script that exits with a code, of which the lowest eight bits are told. -/
def ofCode (code : Int) : CommandEnd :=
  if 0 ≤ code ∧ code < 0x80000000 then .exited (code.toNat % 256) else wrongArgument

example : (ofSignal 15).text = "signal: 15 (SIGTERM)" := by decide

example : (ofSignal 18).text = "exit status: 0" := by decide +kernel

end VmDeploy.CommandEnd
