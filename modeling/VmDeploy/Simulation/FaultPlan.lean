import VmDeploy.Keyed

/-!
# Planned failures

The next calls of a method can be made to fail, one after the other. A plan
may also let a call pass.
-/

set_option autoImplicit false

namespace VmDeploy

/-- For each method what happens to its next calls: an error, or nothing. -/
abbrev FaultPlan (ε : Type) := Keyed (List (Option ε))

namespace FaultPlan

variable {ε : Type}

/-- Plans what happens to calls behind those that are planned already. -/
def plan (method : String) (faults : List (Option ε)) (p : FaultPlan ε) : FaultPlan ε :=
  Keyed.insert method ((Keyed.find? method p).getD [] ++ faults) p

/-- What happens to the next call of a method, and what is planned behind it. -/
def next (method : String) (p : FaultPlan ε) : Option ε × FaultPlan ε :=
  match Keyed.find? method p with
  | some (fault :: rest) => (fault, Keyed.insert method rest p)
  | some [] | none => (none, p)

end FaultPlan

end VmDeploy
