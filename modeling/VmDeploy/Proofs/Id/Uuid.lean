import Mathlib.Algebra.GroupWithZero.Nat
import VmDeploy.Id.Uuid
import VmDeploy.Proofs.Text.Hex

/-!
# Which texts are UUIDs

A text is a UUID exactly if it is made of thirty-two hexadecimal digits, of either case, in one of
four forms: the digits alone, in hyphened groups, in hyphened groups between braces, or those
behind the scheme of a URN (`parse_eq_some_iff`). The forms have different lengths, so a text is
read in at most one of them.
-/

set_option autoImplicit false

namespace VmDeploy.Uuid

/-- The ways to write the digits of a UUID. -/
def forms (digits : List Char) : List (List Char) :=
  let hyphened := writeGroups groupLengths digits
  [digits, hyphened, '\x7b' :: hyphened ++ ['\x7d'], urnScheme ++ hyphened]

/-- Digits are those of a UUID, up to the case of letters. -/
def IsDigits (digits : List Char) (id : Uuid) : Prop :=
  digits.map Char.toLower = Text.Hex.encode id.bytes ∧ id.bytes.length = 16

/-- A text is a UUID. -/
def Spells (text : String) (id : Uuid) : Prop :=
  ∃ digits, text.toList ∈ forms digits ∧ IsDigits digits id

variable {n : Nat} {lengths : List Nat} {digits s inner : List Char} {id : Uuid} {text : String}

theorem IsDigits.length (isDigits : IsDigits digits id) : digits.length = 32 := by
  rw [← List.length_map, isDigits.1, Text.Hex.length_encode, isDigits.2]

theorem ofDigits_eq_some_iff : ofDigits digits = some id ↔ IsDigits digits id := by
  unfold ofDigits
  constructor
  · intro read
    split at read
    · rename_i all
      obtain ⟨bytes, decoded, rfl⟩ := Option.map_eq_some_iff.mp read
      have same := Text.Hex.decode?_eq_some_iff.mp decoded
      have twice : digits.length = 2 * bytes.length := by
        rw [← Text.Hex.length_encode, ← same, List.length_map]
      exact ⟨same, by show bytes.length = 16; omega⟩
    · cases read
  · intro isDigits
    rw [if_pos isDigits.length, Text.Hex.decode?_eq_some_iff.mpr isDigits.1]
    rfl

/-! ## Groups -/

/-- The groups of digits, each behind a hyphen. -/
def hyphens : (lengths : List Nat) → List Char → List Char
  | [], _ => []
  | n :: rest, digits => '-' :: digits.take n ++ hyphens rest (digits.drop n)

theorem writeGroups_cons (n : Nat) (lengths : List Nat) (digits : List Char) :
    writeGroups (n :: lengths) digits = digits.take n ++ hyphens lengths (digits.drop n) := by
  induction lengths generalizing n digits with
  | nil => simp [writeGroups, hyphens]
  | cons m rest ih =>
    rw [writeGroups, ih]
    · rfl
    · exact nofun

theorem length_hyphens (all : digits.length = lengths.sum) :
    (hyphens lengths digits).length = lengths.sum + lengths.length := by
  induction lengths generalizing digits with
  | nil => rfl
  | cons n rest ih =>
    rw [List.sum_cons] at all
    have later : (digits.drop n).length = rest.sum := by rw [List.length_drop]; omega
    simp only [hyphens, List.length_append, List.length_cons, List.length_take, ih later,
      List.sum_cons]
    omega

/-- One group is read from the front, if those behind it are read as they are written. -/
theorem readGroup_eq_some_iff (enough : n ≤ s.length)
    (later : ∀ tail, readGroups lengths false (s.drop n) = some tail ↔
      tail.length = lengths.sum ∧ s.drop n = hyphens lengths tail) :
    (do
        let tail ← readGroups lengths false (s.drop n)
        return s.take n ++ tail) = some digits ↔
      digits.length = n + lengths.sum ∧
        s = digits.take n ++ hyphens lengths (digits.drop n) := by
  have front : (s.take n).length = n := by rw [List.length_take]; omega
  constructor
  · intro read
    obtain ⟨tail, rest, read⟩ := Option.bind_eq_some_iff.mp read
    cases read
    obtain ⟨count, written⟩ := (later tail).mp rest
    refine ⟨by rw [List.length_append, front, count], ?_⟩
    rw [List.take_left' front, List.drop_left' front, ← written, List.take_append_drop]
  · rintro ⟨count, written⟩
    have first : (digits.take n).length = n := by rw [List.length_take]; omega
    have rest : s.drop n = hyphens lengths (digits.drop n) := by rw [written, List.drop_left' first]
    have read := (later (digits.drop n)).mpr ⟨by rw [List.length_drop]; omega, rest⟩
    have group : s.take n = digits.take n := by rw [written, List.take_left' first]
    rw [read, group]
    exact congrArg some (List.take_append_drop n digits)

/-- Groups behind hyphens are read exactly as they are written. -/
theorem readGroups_eq_some_iff (all : s.length = lengths.sum + lengths.length) :
    readGroups lengths false s = some digits ↔
      digits.length = lengths.sum ∧ s = hyphens lengths digits := by
  induction lengths generalizing s digits with
  | nil =>
    cases s with
    | nil => simp [readGroups, hyphens, eq_comm]
    | cons c rest => cases all
  | cons n rest ih =>
    rw [List.sum_cons, List.length_cons] at all
    cases s with
    | nil => cases all
    | cons c s =>
      rw [List.length_cons] at all
      by_cases hyphen : c = '-'
      · subst hyphen
        rw [readGroups, readGroup_eq_some_iff (by omega)
          (fun tail => ih (by rw [List.length_drop]; omega))]
        simp [hyphens]
      · rw [readGroups]
        · simp [hyphens, hyphen]
        · simpa using hyphen

theorem length_writeGroups (all : digits.length = 32) :
    (writeGroups groupLengths digits).length = 36 := by
  rw [groupLengths, writeGroups_cons, List.length_append, List.length_take,
    length_hyphens (by rw [List.length_drop, all]; rfl), all]
  rfl

theorem ofHyphened_eq_some_iff :
    ofHyphened s = some id ↔
      ∃ digits, s = writeGroups groupLengths digits ∧ IsDigits digits id := by
  have whole : s.length = 36 → ∀ digits, readGroups groupLengths true s = some digits ↔
      digits.length = 32 ∧ s = writeGroups groupLengths digits := by
    intro all digits
    rw [groupLengths, writeGroups_cons]
    exact readGroup_eq_some_iff (by omega)
      fun tail => readGroups_eq_some_iff (by rw [List.length_drop, all]; rfl)
  unfold ofHyphened
  constructor
  · intro read
    split at read
    · rename_i all
      obtain ⟨digits, groups, read⟩ := Option.bind_eq_some_iff.mp read
      exact ⟨digits, ((whole all digits).mp groups).2, ofDigits_eq_some_iff.mp read⟩
    · cases read
  · rintro ⟨digits, written, isDigits⟩
    have all : s.length = 36 := written ▸ length_writeGroups isDigits.length
    rw [if_pos all, (whole all digits).mpr ⟨isDigits.length, written⟩]
    exact ofDigits_eq_some_iff.mpr isDigits

/-! ## Forms -/

theorem insideBraces_eq_some_iff :
    insideBraces s = some inner ↔ s = '\x7b' :: inner ++ ['\x7d'] := by
  unfold insideBraces
  constructor
  · intro inside
    split at inside
    · rename_i rest last
      cases inside
      obtain ⟨front, here⟩ := List.getLast?_eq_some_iff.mp last
      cases front with
      | nil => cases here
      | cons c front =>
        rw [List.cons_append] at here
        obtain ⟨rfl, rfl⟩ := List.cons.inj here
        rw [List.dropLast_concat]
        rfl
    · cases inside
  · rintro rfl
    rw [List.getLast?_concat]
    exact congrArg some List.dropLast_concat

theorem take_urnScheme :
    s.take 9 = urnScheme ↔ s = urnScheme ++ s.drop 9 := by
  constructor
  · intro scheme
    rw [← scheme, List.take_append_drop]
  · intro urn
    rw [urn, List.take_left' (by decide)]

/-- A text is read as a UUID exactly if it is one. -/
theorem parse_eq_some_iff : parse text = some id ↔ Spells text id := by
  unfold parse Spells forms
  generalize text.toList = s
  constructor
  · intro read
    dsimp only at read
    split at read
    · exact ⟨s, by simp, ofDigits_eq_some_iff.mp read⟩
    · split at read
      · obtain ⟨digits, written, isDigits⟩ := ofHyphened_eq_some_iff.mp read
        exact ⟨digits, by simp [written], isDigits⟩
      · split at read
        · obtain ⟨inner, braces, read⟩ := Option.bind_eq_some_iff.mp read
          obtain ⟨digits, written, isDigits⟩ := ofHyphened_eq_some_iff.mp read
          refine ⟨digits, ?_, isDigits⟩
          simp [insideBraces_eq_some_iff.mp braces, written]
        · split at read
          · split at read
            · rename_i scheme
              obtain ⟨digits, written, isDigits⟩ := ofHyphened_eq_some_iff.mp read
              refine ⟨digits, ?_, isDigits⟩
              rw [take_urnScheme.mp scheme, written]
              simp
            · cases read
          · cases read
  · rintro ⟨digits, form, isDigits⟩
    have plain := isDigits.length
    have hyphened := length_writeGroups plain
    have read := ofHyphened_eq_some_iff.mpr ⟨digits, rfl, isDigits⟩
    simp only [List.mem_cons, List.not_mem_nil, or_false] at form
    rcases form with rfl | rfl | rfl | rfl
    · rw [if_pos plain]
      exact ofDigits_eq_some_iff.mpr isDigits
    · simpa [hyphened] using read
    · have inside : insideBraces ('\x7b' :: (writeGroups groupLengths digits ++ ['\x7d']))
          = some (writeGroups groupLengths digits) := insideBraces_eq_some_iff.mpr rfl
      simpa [hyphened, inside] using read
    · have scheme : urnScheme.length = 9 := by decide
      have all : (urnScheme ++ writeGroups groupLengths digits).length = 45 := by
        rw [List.length_append, scheme, hyphened]
      simpa [all, List.take_left' scheme, List.drop_left' scheme] using read

end VmDeploy.Uuid
