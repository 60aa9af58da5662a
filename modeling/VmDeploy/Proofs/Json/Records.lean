import VmDeploy.Json.Decode
import VmDeploy.Proofs.Json.Entries
import VmDeploy.Proofs.Result

/-!
# Records that are read from values

When a decoder succeeds, and with what. A record is read from an object if each of its fields is
(`Fields.Reads`), and from a list if its fields take the items one after the other and all of them
(`Fields.Takes`). There is one law for each way to build fields, and one for records
(`Decoder.record_eq_ok_iff`).
-/

set_option autoImplicit false

namespace VmDeploy.Json

namespace Fields

variable {α β : Type} {f : Fields (α → β)} {x : Fields α} {entries : Keyed Json} {name : String}
  {decode : Decoder α} {a absent : α} {expected : String} {place : Nat} {items rest : List Json}

/-- The fields read a value from the entries of an object. -/
def Reads (fields : Fields α) (entries : Keyed Json) (a : α) : Prop :=
  fields.ofObject entries = ⟨[], [], some a⟩

/-- The fields take a value from the front of a list and leave the rest. -/
def Takes (fields : Fields α) (expected : String) (place : Nat) (items : List Json) (a : α)
    (rest : List Json) : Prop :=
  fields.ofItems expected place items = .ok (a, rest)

theorem reads_pure_iff {b : α} : Reads (pure a) entries b ↔ b = a := by
  simp [Reads, pure, none, eq_comm]

/-- Two parts read what each of them reads. -/
theorem reads_seq_iff {b : β} :
    Reads (f <*> x) entries b ↔ ∃ g a, Reads f entries g ∧ Reads x entries a ∧ g a = b := by
  show (⟨(f.ofObject entries).faults ++ (x.ofObject entries).faults,
      (f.ofObject entries).missing ++ (x.ofObject entries).missing,
      (f.ofObject entries).value.bind fun g => (x.ofObject entries).value.map g⟩ : Gathered β)
    = ⟨[], [], some b⟩ ↔ _
  unfold Reads
  obtain ⟨faults, missing, g⟩ := f.ofObject entries
  obtain ⟨faults', missing', a⟩ := x.ofObject entries
  cases g <;> cases a <;> simp [and_assoc, and_comm, and_left_comm]

theorem reads_map_iff {g : α → β} {b : β} :
    Reads (g <$> x) entries b ↔ ∃ a, Reads x entries a ∧ g a = b := by
  show Reads (pure g <*> x) entries b ↔ _
  simp [reads_seq_iff, reads_pure_iff]

/-- A field that may not be missing is read from its entry. -/
theorem reads_required_iff :
    Reads (required name decode) entries a ↔
      ∃ v, Keyed.find? name entries = some v ∧ decode v = .ok a := by
  unfold Reads required field
  cases found : Keyed.find? name entries with
  | none => simp [found]
  | some v => cases read : decode v <;> simp [found, read]

/-- A field with a default is read from its entry, and is the default where it has none. -/
theorem reads_optional_iff :
    Reads (optional name decode absent) entries a ↔
      (∃ v, Keyed.find? name entries = some v ∧ decode v = .ok a) ∨
        Keyed.find? name entries = Option.none ∧ a = absent := by
  unfold Reads optional field
  cases found : Keyed.find? name entries with
  | none => simp [found, eq_comm]
  | some v => cases read : decode v <;> simp [found, read]

theorem takes_pure_iff {b : α} :
    Takes (pure a) expected place items b rest ↔ b = a ∧ rest = items := by
  simp [Takes, pure, none, eq_comm]

/-- Two parts take items one after the other. -/
theorem takes_seq_iff {b : β} :
    Takes (f <*> x) expected place items b rest ↔
      ∃ g middle a, Takes f expected place items g middle ∧
        Takes x expected (place + f.count) middle a rest ∧ g a = b := by
  show (f.ofItems expected place items >>= fun first =>
    x.ofItems expected (place + f.count) first.2 >>= fun second =>
      .ok (first.1 second.1, second.2)) = _ ↔ _
  unfold Takes
  constructor
  · intro taken
    obtain ⟨⟨g, middle⟩, first, taken⟩ := Result.bind_eq_ok.mp taken
    obtain ⟨⟨a, rest'⟩, second, last⟩ := Result.bind_eq_ok.mp taken
    cases last
    exact ⟨g, middle, a, first, second, rfl⟩
  · rintro ⟨g, middle, a, first, second, rfl⟩
    exact Result.bind_eq_ok.mpr ⟨(g, middle), first, Result.bind_eq_ok.mpr ⟨(a, rest), second, rfl⟩⟩

theorem takes_map_iff {g : α → β} {b : β} :
    Takes (g <$> x) expected place items b rest ↔
      ∃ a, Takes x expected place items a rest ∧ g a = b := by
  show Takes (pure g <*> x) expected place items b rest ↔ _
  rw [takes_seq_iff]
  constructor
  · rintro ⟨_, _, a, first, second, rfl⟩
    obtain ⟨rfl, rfl⟩ := takes_pure_iff.mp first
    exact ⟨a, second, rfl⟩
  · rintro ⟨a, taken, rfl⟩
    exact ⟨g, items, a, takes_pure_iff.mpr ⟨rfl, rfl⟩, taken, rfl⟩

/-- A field that may not be missing takes the item in its place. -/
theorem takes_required_iff :
    Takes (required name decode) expected place items a rest ↔
      ∃ v, items = v :: rest ∧ decode v = .ok a := by
  unfold Takes required field
  cases items with
  | nil => simp
  | cons v tail =>
    cases read : decode v <;> simp [Except.map, and_comm, read]

/-- A field with a default takes the item in its place, and is the default behind the end. -/
theorem takes_optional_iff :
    Takes (optional name decode absent) expected place items a rest ↔
      (∃ v, items = v :: rest ∧ decode v = .ok a) ∨ items = [] ∧ rest = [] ∧ a = absent := by
  unfold Takes optional field
  cases items with
  | nil => simp [eq_comm, and_comm]
  | cons v tail =>
    cases read : decode v <;> simp [Except.map, and_comm, read]

end Fields

namespace Decoder

variable {α β : Type} {name : String} {fields : Fields α} {a : α} {v : Json}

theorem string_eq_ok_iff {s : String} : string v = .ok s ↔ v = .string s := by
  cases v <;> simp [string, refuse, eq_comm]

theorem firstFault?_eq_none_iff {faults : List (String × ShapeFault)} :
    firstFault? faults = none ↔ faults = [] := by
  cases faults with
  | nil => exact iff_of_true rfl rfl
  | cons fault rest =>
    refine iff_of_false ?_ (List.cons_ne_nil _ _)
    unfold firstFault?
    split
    · nofun
    · split <;> nofun

/-- A record is read from an object if its fields are. -/
theorem record_object_iff {entries : Keyed Json} :
    record name fields (.object entries) = .ok a ↔ fields.Reads entries a := by
  unfold record Fields.Reads
  dsimp only
  obtain ⟨faults, missing, value⟩ := fields.ofObject entries
  cases h : firstFault? faults with
  | some fault =>
    have : faults ≠ [] := fun empty => by rw [firstFault?_eq_none_iff.mpr empty] at h; cases h
    simp [this]
  | none =>
    cases firstFault?_eq_none_iff.mp h
    cases missing <;> cases value <;> simp

/-- A record is read from a list if its fields take all items. -/
theorem record_array_iff {items : List Json} :
    record name fields (.array items) = .ok a ↔
      fields.Takes (recordListText name fields.count) 0 items a [] := by
  unfold record Fields.Takes
  constructor
  · intro read
    obtain ⟨⟨b, rest⟩, taken, last⟩ := Result.bind_eq_ok.mp read
    dsimp only at last
    split at last
    · rename_i empty
      cases last
      rwa [List.isEmpty_iff.mp empty] at taken
    · cases last
  · intro taken
    dsimp only
    rw [taken]
    rfl

/-- A record is read from objects and lists alone. -/
theorem record_eq_ok_iff :
    record name fields v = .ok a ↔
      (∃ entries, v = .object entries ∧ fields.Reads entries a) ∨
        ∃ items, v = .array items ∧
          fields.Takes (recordListText name fields.count) 0 items a [] := by
  cases v with
  | object entries => simp [record_object_iff]
  | array items => simp [record_array_iff]
  | _ => simp [record, refuse]

end Decoder

end VmDeploy.Json
