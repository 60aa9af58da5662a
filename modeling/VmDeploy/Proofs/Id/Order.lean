import VmDeploy.Proofs.Id.Parsing
import VmDeploy.Proofs.Text.Utf8

/-!
# The order of identifiers of records

Identifiers are in the order of their texts, compared byte by byte, and those that were minted in an
earlier millisecond come before those that were minted in a later one. So a list of identifiers has
one sorting, and the texts of that are the one sorting of their texts (`RecordId.sorts_as_texts`).

The order of texts is that of numbers because all texts have the same number of digits, and because
the alphabet is in ascending order (`Crockford.bytes_lt_bytes_iff`).
-/

set_option autoImplicit false

namespace VmDeploy

/-- A list in order, of the items of another one. -/
def IsSorting {α : Type} (le : α → α → Prop) (xs ys : List α) : Prop :=
  ys.Perm xs ∧ ys.Pairwise le

/-- There is one sorting at most. -/
theorem IsSorting.unique {α : Type} {le : α → α → Prop} {xs ys zs : List α}
    (antisymm : ∀ a b, le a b → le b a → a = b) (sorting : IsSorting le xs ys)
    (sorting' : IsSorting le xs zs) : ys = zs :=
  List.Perm.eq_of_pairwise (fun a b _ _ => antisymm a b) sorting.2 sorting'.2
    (sorting.1.trans sorting'.1.symm)

namespace Crockford

variable {u v : Nat}

/-- The byte of a digit. -/
def byte (v : Nat) : UInt8 := (digit v).toUInt8

/-- The bytes of the last `count` digits of a number. -/
def bytes (count n : Nat) : List UInt8 := (encode count n).flatMap String.utf8EncodeChar

/-- The alphabet is in ascending order. -/
theorem byte_lt_byte_iff (hu : u < 32) (hv : v < 32) : byte u < byte v ↔ u < v := by
  have all : ∀ i j : Fin 32, byte i < byte j ↔ i.val < j.val := by decide
  exact all ⟨u, hu⟩ ⟨v, hv⟩

theorem byte_inj (hu : u < 32) (hv : v < 32) : byte u = byte v ↔ u = v := by
  have all : ∀ i j : Fin 32, byte i = byte j ↔ i.val = j.val := by decide
  exact all ⟨u, hu⟩ ⟨v, hv⟩

theorem bytes_succ (count n : Nat) :
    bytes (count + 1) n = byte (n / 32 ^ count % 32) :: bytes count n := by
  have all : ∀ i : Fin 32, String.utf8EncodeChar (digit i) = [byte i] := by decide
  have first := all ⟨n / 32 ^ count % 32, Nat.mod_lt _ (by decide)⟩
  rw [bytes, encode_succ_eq_cons, List.flatMap_cons, first]
  rfl

/-- Of two numbers the first digit in which they differ decides which is less. -/
theorem add_mul_lt_iff {base low low' high high' : Nat} (hl : low < base) (hl' : low' < base) :
    low + base * high < low' + base * high' ↔ high < high' ∨ high = high' ∧ low < low' := by
  rcases Nat.lt_trichotomy high high' with less | rfl | more
  · have step : base * high + base ≤ base * high' := Nat.mul_le_mul_left base less
    omega
  · omega
  · have step : base * high' + base ≤ base * high := Nat.mul_le_mul_left base more
    omega

/-- Digits of the same number are in the order of what they spell. -/
theorem bytes_lt_bytes_iff (count m n : Nat) :
    bytes count m < bytes count n ↔ m % 32 ^ count < n % 32 ^ count := by
  induction count with
  | zero => simp [bytes, encode, Nat.mod_one]
  | succ count ih =>
    have small (k : Nat) : k / 32 ^ count % 32 < 32 := Nat.mod_lt _ (by decide)
    have low (k : Nat) : k % 32 ^ count < 32 ^ count := Nat.mod_lt _ (Nat.pow_pos (by decide))
    rw [bytes_succ, bytes_succ, List.cons_lt_cons_iff, byte_lt_byte_iff (small m) (small n),
      byte_inj (small m) (small n), ih, Nat.mod_pow_succ, Nat.mod_pow_succ,
      add_mul_lt_iff (low m) (low n)]

end Crockford

namespace RecordId

open Text (BytesLE Utf8.encode)

variable {a b : RecordId}

/-- The bytes of the text of an identifier. -/
theorem encode_text (id : RecordId) : Utf8.encode id.text =
    ("disk".toList ++ ['_']).flatMap String.utf8EncodeChar ++
      Crockford.bytes digitCount id.value := by
  have chars : id.text.toList = ("disk".toList ++ ['_']) ++ id.digits := by
    show (prefixed id.digits).toList = _
    rw [toList_prefixed, List.append_assoc, List.singleton_append]
  rw [← String.ofList_toList (s := id.text), chars, Text.Utf8.encode_ofList, List.flatMap_append]
  rfl

/-- Identifiers are in the order of their texts. -/
theorem le_iff_bytesLE : a ≤ b ↔ BytesLE a.text b.text := by
  have small (id : RecordId) : id.value % 32 ^ digitCount = id.value :=
    Nat.mod_eq_of_lt (Nat.lt_of_lt_of_le id.value_lt (by decide))
  have less (a b : RecordId) :
      Crockford.bytes digitCount a.value < Crockford.bytes digitCount b.value ↔
        a.value < b.value := by
    rw [Crockford.bytes_lt_bytes_iff, small, small]
  unfold BytesLE
  rw [encode_text, encode_text]
  constructor
  · intro le
    refine List.append_left_le ?_
    rw [← List.not_lt, less]
    exact Nat.not_lt.mpr le
  · intro le
    refine Nat.le_of_not_lt fun more => ?_
    exact List.not_lt.mpr le (List.append_left_lt ((less b a).mpr more))

/-- What was minted in an earlier millisecond comes first. -/
theorem timestamp_le_timestamp (le : a ≤ b) : a.timestamp ≤ b.timestamp := Nat.div_le_div_right le

theorem isSorting_sort (ids : List RecordId) : IsSorting (· ≤ ·) ids (sort ids) := by
  refine ⟨List.mergeSort_perm _ _, ?_⟩
  have sorted : (sort ids).Pairwise fun a b => decide (a ≤ b) = true := by
    refine List.pairwise_mergeSort (fun a b c ab bc => ?_) (fun a b => ?_) ids
    · exact decide_eq_true (Nat.le_trans (of_decide_eq_true ab) (of_decide_eq_true bc))
    · rw [Bool.or_eq_true, decide_eq_true_eq, decide_eq_true_eq]
      exact Nat.le_total a.value b.value
  exact sorted.imp of_decide_eq_true

/-- There is one sorting of identifiers. -/
theorem isSorting_iff {ids sorted : List RecordId} :
    IsSorting (· ≤ ·) ids sorted ↔ sorted = sort ids := by
  constructor
  · intro sorting
    refine sorting.unique (fun a b ab ba => ?_) (isSorting_sort ids)
    have same : a.value = b.value := Nat.le_antisymm ab ba
    cases a
    cases same
    rfl
  · rintro rfl
    exact isSorting_sort ids

/-- There is one sorting of their texts. -/
theorem isSorting_texts_iff {ids : List RecordId} {texts : List String} :
    IsSorting BytesLE (ids.map text) texts ↔ texts = (sort ids).map text := by
  obtain ⟨perm, order⟩ := isSorting_sort ids
  have texts : IsSorting BytesLE (ids.map text) ((sort ids).map text) :=
    ⟨perm.map text, List.pairwise_map.mpr (order.imp le_iff_bytesLE.mp)⟩
  constructor
  · intro sorting
    exact sorting.unique
      (fun s t st ts => Text.Utf8.encode_injective (List.le_antisymm st ts)) texts
  · rintro rfl
    exact texts

/-- Identifiers sort as their texts do, and by the time of minting. -/
theorem sorts_as_texts :
    (∀ a b : RecordId, (a ≤ b ↔ BytesLE a.text b.text) ∧ (a.timestamp < b.timestamp → a < b)) ∧
      ∀ ids : List RecordId,
        (∀ sorted, IsSorting (· ≤ ·) ids sorted ↔ sorted = sort ids) ∧
        (∀ texts, IsSorting BytesLE (ids.map text) texts ↔ texts = (sort ids).map text) ∧
        ((sort ids).map timestamp).Pairwise (· ≤ ·) := by
  refine ⟨fun a b => ⟨le_iff_bytesLE, fun earlier => ?_⟩, fun ids =>
    ⟨fun _ => isSorting_iff, fun _ => isSorting_texts_iff, ?_⟩⟩
  · exact Nat.lt_of_not_le fun le => Nat.not_lt.mpr (timestamp_le_timestamp le) earlier
  · exact List.pairwise_map.mpr ((isSorting_sort ids).2.imp timestamp_le_timestamp)

/-- Identifiers of two milliseconds, of which the older ones have the larger random bits. -/
def sampleIds : List RecordId := [mint 2 0, mint 1 31, mint 1 9]

theorem sorts_as_texts_sample :
    (mint 1 31).timestamp < (mint 2 0).timestamp ∧ mint 1 31 < mint 2 0 ∧
      sort sampleIds = [mint 1 9, mint 1 31, mint 2 0] := by
  have earlier : (mint 1 31).timestamp < (mint 2 0).timestamp := by decide
  refine ⟨earlier, (sorts_as_texts.1 _ _).2 earlier, ?_⟩
  exact ((sorts_as_texts.2 sampleIds).1 _ |>.mp ⟨by decide, by decide⟩).symm

end RecordId

end VmDeploy
