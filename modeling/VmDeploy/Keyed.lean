/-!
# Entries sorted by key

A finite map from texts, kept as the list of its entries in ascending order of
their keys, one entry for each key. Texts are ordered by the numbers of their
characters. `insert` keeps the order and replaces an entry that is there; what
it does to a look-up is said by `find?_insert_self` and `find?_insert_of_ne`.
-/

set_option autoImplicit false

namespace VmDeploy

/-- The entries of a map from texts. -/
abbrev Keyed (α : Type) := List (String × α)

namespace Keyed

variable {α : Type}

/-- Sets a key, keeping the keys in ascending order. -/
def insert (key : String) (value : α) : Keyed α → Keyed α
  | [] => [(key, value)]
  | (k, v) :: rest =>
    if key < k then (key, value) :: (k, v) :: rest
    else if key = k then (key, value) :: rest
    else (k, v) :: insert key value rest

/-- The value of a key. -/
def find? (key : String) : Keyed α → Option α
  | [] => none
  | (k, v) :: rest => if k = key then some v else find? key rest

/-- Removes a key. -/
def erase (key : String) : Keyed α → Keyed α
  | [] => []
  | (k, v) :: rest => if k = key then rest else (k, v) :: erase key rest

/-- Sets the keys of a list one after the other, so that the last entry of a key stays. -/
def ofList (entries : List (String × α)) : Keyed α :=
  entries.foldl (fun fields (key, value) => insert key value fields) []

/-- A key that was just set has the value that was set. -/
@[simp] theorem find?_insert_self (key : String) (value : α) (fields : Keyed α) :
    find? key (insert key value fields) = some value := by
  induction fields with
  | nil => simp [insert, find?]
  | cons entry rest ih =>
    obtain ⟨k, v⟩ := entry
    simp only [insert]
    split
    · simp [find?]
    · split
      · simp [find?]
      · rename_i h
        have : k ≠ key := fun e => h e.symm
        simpa [find?, this] using ih

/-- Setting a key leaves the other keys alone. -/
theorem find?_insert_of_ne {key other : String} (value : α) (fields : Keyed α)
    (h : key ≠ other) : find? other (insert key value fields) = find? other fields := by
  induction fields with
  | nil => simp [insert, find?, h]
  | cons entry rest ih =>
    obtain ⟨k, v⟩ := entry
    simp only [insert]
    split
    · simp [find?, h]
    · split
      · rename_i e
        subst e
        simp [find?, h]
      · by_cases e : k = other
        · simp [find?, e]
        · simpa [find?, e] using ih

end Keyed

end VmDeploy
