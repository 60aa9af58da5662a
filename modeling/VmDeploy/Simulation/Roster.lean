import VmDeploy.Keyed

/-!
# Those that were made under a name

A name may be used again: the newer holder of a name is somebody else, and the
older one lives on. Everybody is told apart by a number, which is never given
twice; by name one reaches the newest, as `find?_add` says.
-/

set_option autoImplicit false

namespace VmDeploy.Simulation

/-- All that were made, the oldest first, and for each name who has it now. -/
structure Roster (α : Type) where
  members : List α := []
  holders : Keyed Nat := []

namespace Roster

variable {α : Type}

/-- The number that the next one gets. -/
def next (r : Roster α) : Nat := r.members.length

/-- Adds somebody, who takes over the name. -/
def add (name : String) (a : α) (r : Roster α) : Roster α :=
  { members := r.members ++ [a], holders := Keyed.insert name r.next r.holders }

/-- The one with a number. -/
def get? (r : Roster α) (index : Nat) : Option α := r.members[index]?

/-- The number of the one who has a name now. -/
def find? (r : Roster α) (name : String) : Option Nat := Keyed.find? name r.holders

/-- Changes the one with a number. -/
def modify (index : Nat) (change : α → α) (r : Roster α) : Roster α :=
  { r with members := r.members.modify index change }

/-- Changes the one who has a name now. -/
def tell (name : String) (change : α → α) (r : Roster α) : Roster α :=
  match r.find? name with
  | some index => r.modify index change
  | none => r

/-- The one who has a name now. -/
def named? (r : Roster α) (name : String) : Option α := r.find? name >>= r.get?

/-- Those who have a name now, in the order of the names. -/
def current (r : Roster α) : Keyed α :=
  r.holders.filterMap fun (name, index) => (r.get? index).map fun a => (name, a)

/-- Changes all. -/
def map (change : α → α) (r : Roster α) : Roster α :=
  { r with members := r.members.map change }

/-- The one who was added last has the name. -/
@[simp] theorem find?_add (name : String) (a : α) (r : Roster α) :
    (r.add name a).find? name = some r.next := by
  simp [add, find?]

end Roster

end VmDeploy.Simulation
