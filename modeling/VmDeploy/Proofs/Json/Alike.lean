import VmDeploy.Proofs.Json.Entries
import VmDeploy.Proofs.Json.Texts

/-!
# Values that are alike

Two values are alike if they differ in nothing but the order in which the entries of their objects
are listed, at whatever depth: arrays have alike items at the same places, and objects have alike
values under the same keys, where of several entries of one key the last counts. When two numbers
are alike is left open (`Alike`).

The canonical text is that of the normal form, and values have one normal form if and only if they
are alike and their numbers are identical (`normalize_eq_iff`, `canonical_eq_iff`).
-/

set_option autoImplicit false

namespace VmDeploy.Json

open Keyed (Ascending last? last?_map mem_of_last?)

/-- Equality up to the order of entries, with numbers compared by `same`. -/
inductive Alike (same : JsonNumber → JsonNumber → Prop) : Json → Json → Prop
  | null : Alike same .null .null
  | bool (b : Bool) : Alike same (.bool b) (.bool b)
  | number {m n : JsonNumber} (value : same m n) : Alike same (.number m) (.number n)
  | string (s : String) : Alike same (.string s) (.string s)
  | array {xs ys : List Json} (length : xs.length = ys.length)
      (items : ∀ (i : Nat) x y, xs[i]? = some x → ys[i]? = some y → Alike same x y) :
      Alike same (.array xs) (.array ys)
  | object {fs gs : List (String × Json)}
      (keys : ∀ key, (last? key fs).isSome = (last? key gs).isSome)
      (values : ∀ key x y, last? key fs = some x → last? key gs = some y → Alike same x y) :
      Alike same (.object fs) (.object gs)

theorem normalizeItems_eq_map (items : List Json) :
    normalizeItems items = items.map normalize := by
  induction items with
  | nil => rfl
  | cons x rest ih => rw [normalizeItems, ih, List.map_cons]

theorem normalizeFields_eq_map (fields : List (String × Json)) :
    normalizeFields fields = fields.map fun entry => (entry.1, normalize entry.2) := by
  induction fields with
  | nil => rfl
  | cons entry rest ih => rw [normalizeFields, ih, List.map_cons]

/-- Two things that may be missing are mapped to the same if both are there or none is, and those
that are there are mapped to the same. -/
theorem map_normalize_eq_iff {a b : Option Json} :
    a.map normalize = b.map normalize ↔
      a.isSome = b.isSome ∧ ∀ x y, a = some x → b = some y → x.normalize = y.normalize := by
  cases a <;> cases b <;> simp

theorem normalize_array_eq_iff {xs ys : List Json} :
    (Json.array xs).normalize = (Json.array ys).normalize ↔
      xs.length = ys.length ∧
        ∀ (i : Nat) x y, xs[i]? = some x → ys[i]? = some y → x.normalize = y.normalize := by
  rw [normalize, normalize, Json.array.injEq, normalizeItems_eq_map, normalizeItems_eq_map]
  constructor
  · intro same
    refine ⟨by simpa using congrArg List.length same, fun i => ?_⟩
    refine (map_normalize_eq_iff.mp ?_).2
    rw [← List.getElem?_map, same, List.getElem?_map]
  · rintro ⟨length, items⟩
    refine List.ext_getElem? fun i => ?_
    have there : xs[i]?.isSome = ys[i]?.isSome := by
      rw [Bool.eq_iff_iff, isSome_getElem?, isSome_getElem?, length]
    rw [List.getElem?_map, List.getElem?_map]
    exact map_normalize_eq_iff.mpr ⟨there, items i⟩

theorem normalize_object_eq_iff {fs gs : List (String × Json)} :
    (Json.object fs).normalize = (Json.object gs).normalize ↔
      (∀ key, (last? key fs).isSome = (last? key gs).isSome) ∧
        ∀ key x y, last? key fs = some x → last? key gs = some y → x.normalize = y.normalize := by
  rw [normalize, normalize, Json.object.injEq, normalizeFields_eq_map, normalizeFields_eq_map,
    Keyed.ofList_eq_iff]
  simp only [last?_map, map_normalize_eq_iff, forall_and]

/-- Values have one normal form if and only if they are alike and their numbers identical. -/
theorem normalize_eq_iff {x y : Json} : x.normalize = y.normalize ↔ Alike (· = ·) x y := by
  constructor
  · intro same
    induction x using induct generalizing y with
    | null =>
      cases y <;> simp only [normalize, reduceCtorEq] at same
      exact .null
    | bool b =>
      cases y <;> simp only [normalize, reduceCtorEq, Json.bool.injEq] at same
      exact same ▸ .bool b
    | number n =>
      cases y <;> simp only [normalize, reduceCtorEq, Json.number.injEq] at same
      exact .number same
    | string s =>
      cases y <;> simp only [normalize, reduceCtorEq, Json.string.injEq] at same
      exact same ▸ .string s
    | array xs ih =>
      cases y with
      | array ys =>
        obtain ⟨length, items⟩ := normalize_array_eq_iff.mp same
        exact .array length fun i x y here there =>
          ih x (List.mem_of_getElem? here) (items i x y here there)
      | _ => simp only [normalize, reduceCtorEq] at same
    | object fs ih =>
      cases y with
      | object gs =>
        obtain ⟨keys, values⟩ := normalize_object_eq_iff.mp same
        exact .object keys fun key x y here there =>
          ih _ (mem_of_last? here) (values key x y here there)
      | _ => simp only [normalize, reduceCtorEq] at same
  · intro alike
    induction alike with
    | null | bool _ | string _ => rfl
    | number value => rw [value]
    | array length _ ih => exact normalize_array_eq_iff.mpr ⟨length, ih⟩
    | object keys _ ih => exact normalize_object_eq_iff.mpr ⟨keys, ih⟩

/-- Values share a canonical text if and only if they are alike and their numbers identical. -/
theorem canonical_eq_iff {x y : Json} : x.canonical = y.canonical ↔ Alike (· = ·) x y :=
  ⟨fun same => normalize_eq_iff.mp (compact_injective same),
    fun alike => congrArg compact (normalize_eq_iff.mpr alike)⟩

/-! ## Values in normal form -/

/-- The entries of every object are in order already. -/
def Normal (x : Json) : Prop := x.normalize = x

theorem normal_array {items : List Json} (each : ∀ x ∈ items, Normal x) :
    Normal (.array items) := by
  rw [Normal, normalize, normalizeItems_eq_map, List.map_congr_left each, List.map_id']

/-- Where the entries of an object are in order, only its values are normalized. -/
theorem normalize_object {fields : JsonFields} (ascending : Ascending fields) :
    (Json.object fields).normalize
      = .object (fields.map fun entry => (entry.1, entry.2.normalize)) := by
  have ascending' : Ascending (fields.map fun entry => (entry.1, entry.2.normalize)) :=
    ascending.map normalize
  rw [normalize, normalizeFields_eq_map, ascending'.ofList_eq]

theorem normal_object {fields : JsonFields} (ascending : Ascending fields)
    (each : ∀ entry ∈ fields, Normal entry.2) : Normal (.object fields) := by
  have values : ∀ entry ∈ fields, (entry.1, entry.2.normalize) = entry := fun entry mem =>
    Prod.ext rfl (each entry mem)
  rw [Normal, normalize_object ascending, List.map_congr_left values, List.map_id']

end VmDeploy.Json
