import VmDeploy.Proofs.Text.Ascii
import VmDeploy.Proofs.Text.Hex
import VmDeploy.Url.Basic

/-!
# Bytes by number

Credentials in a URL stand for bytes (`Url.Encodes`): a character that may stand there stands for
itself, unless it is a percent sign, and a percent sign with two digits for the byte of that number.
There is such a text for every text (`Url.encodes_percentEncode`), and it is the text itself exactly
if it has no percent sign (`Url.Encodes.eq_iff`).
-/

set_option autoImplicit false

namespace VmDeploy.Url

/-- A character that credentials can hold. -/
def isLiteral (c : Char) : Bool := 0x20 < c.toNat && c.toNat < 0x7f && !credentialSet.contains c

/-- A text stands for bytes. -/
inductive Encodes : List Char → List UInt8 → Prop
  | nil : Encodes [] []
  | literal {c : Char} {text : List Char} {bytes : List UInt8} (isLiteral : isLiteral c = true)
      (plain : c ≠ '%') (rest : Encodes text bytes) :
      Encodes (c :: text) (UInt8.ofNat c.toNat :: bytes)
  | byte {high low : Char} {h l : Nat} {text : List Char} {bytes : List UInt8}
      (isHigh : Text.Hex.value? high = some h) (isLow : Text.Hex.value? low = some l)
      (rest : Encodes text bytes) :
      Encodes ('%' :: high :: low :: text) (UInt8.ofNat (16 * h + l) :: bytes)

variable {c : Char} {s text text' set : List Char} {bytes bytes' : List UInt8} {n : Nat}

/-- A digit can stand in credentials and is no percent sign. -/
theorem isLiteral_of_value? (known : Text.Hex.value? c = some n) :
    isLiteral c = true ∧ c ≠ '%' := by
  have all : ∀ k : Fin 128, (Text.Hex.value? (Char.ofNat k)).isSome →
      isLiteral (Char.ofNat k) = true ∧ Char.ofNat k ≠ '%' := by decide +kernel
  obtain ⟨k, rfl⟩ := Text.exists_ascii (Text.Hex.toNat_lt_of_value? known)
  exact all k (Option.isSome_of_eq_some known)

namespace Encodes

/-- What stands for bytes can stand in credentials. -/
theorem isLiteral (encodes : Encodes text bytes) : ∀ c ∈ text, isLiteral c = true := by
  induction encodes with
  | nil => nofun
  | literal isLiteral _ _ ih => exact List.forall_mem_cons.mpr ⟨isLiteral, ih⟩
  | byte isHigh isLow _ ih =>
    exact List.forall_mem_cons.mpr ⟨by decide, List.forall_mem_cons.mpr
      ⟨(isLiteral_of_value? isHigh).1, List.forall_mem_cons.mpr
        ⟨(isLiteral_of_value? isLow).1, ih⟩⟩⟩

theorem ascii (encodes : Encodes text bytes) : ∀ c ∈ text, c.toNat < 128 := by
  intro c mem
  have literal := encodes.isLiteral c mem
  simp only [Url.isLiteral, Bool.and_eq_true, decide_eq_true_eq] at literal
  omega

/-- Each percent sign saves two characters. -/
theorem length_eq (encodes : Encodes text bytes) :
    text.length = bytes.length + 2 * text.count '%' := by
  induction encodes with
  | nil => rfl
  | literal _ plain _ ih =>
    rw [List.length_cons, List.length_cons, List.count_cons_of_ne plain, ih]
    omega
  | byte isHigh isLow _ ih =>
    rw [List.length_cons, List.length_cons, List.length_cons, List.length_cons,
      List.count_cons_self, List.count_cons_of_ne (isLiteral_of_value? isHigh).2,
      List.count_cons_of_ne (isLiteral_of_value? isLow).2, ih]
    omega

theorem bytes_eq (encodes : Encodes text bytes) (plain : '%' ∉ text) :
    bytes = text.map fun c => UInt8.ofNat c.toNat := by
  induction encodes with
  | nil => rfl
  | literal _ _ _ ih => rw [ih (List.not_mem_of_not_mem_cons plain), List.map_cons]
  | byte => exact absurd List.mem_cons_self plain

/-- The text that stands for another is that text itself exactly if nothing in it stands by
number. -/
theorem eq_iff {s : String} (encodes : Encodes text (Text.Utf8.encode s)) :
    text = s.toList ↔ '%' ∉ text := by
  constructor
  · intro same
    have bytes := Text.Utf8.encode_of_ascii encodes.ascii
    have length := encodes.length_eq
    rw [same, String.ofList_toList] at bytes
    rw [bytes, List.length_map, ← same] at length
    exact List.count_eq_zero.mp (by omega)
  · intro plain
    have bytes := encodes.bytes_eq plain
    rw [← Text.Utf8.encode_of_ascii encodes.ascii] at bytes
    rw [Text.Utf8.encode_injective bytes, String.toList_ofList]

theorem append (encodes : Encodes text bytes) (encodes' : Encodes text' bytes') :
    Encodes (text ++ text') (bytes ++ bytes') := by
  induction encodes with
  | nil => exact encodes'
  | literal isLiteral plain _ ih => exact .literal isLiteral plain ih
  | byte isHigh isLow _ ih => exact .byte isHigh isLow ih

end Encodes

/-! ## Writing by number -/

/-- Characters that may stand in a part are left alone. -/
theorem percentEncode_eq_self
    (each : ∀ c ∈ s, 0x20 ≤ c.toNat ∧ c.toNat < 0x7f ∧ set.contains c = false) :
    percentEncode set s = s := by
  unfold percentEncode
  induction s with
  | nil => rfl
  | cons c rest ih =>
    obtain ⟨⟨visible, ascii, allowed⟩, others⟩ := List.forall_mem_cons.mp each
    rw [List.flatMap_cons, ih others, if_neg]
    · rfl
    · rw [allowed]
      simp only [Bool.false_eq_true, or_false]
      omega

theorem encodes_percentByte (b : UInt8) : Encodes (percentByte b) [b] := by
  have upper : ∀ v : Fin 16, Text.Hex.value? (Text.Hex.digit v).toUpper = some v.val := by decide
  have whole : 16 * (b.toNat / 16) + b.toNat % 16 = b.toNat := Nat.div_add_mod _ _
  have encodes := Encodes.byte (upper ⟨_, Text.Hex.high_lt b⟩) (upper ⟨_, Text.Hex.low_lt b⟩) .nil
  rw [whole, UInt8.ofNat_toNat] at encodes
  exact encodes

theorem encodes_percentBytes (bytes : List UInt8) : Encodes (bytes.flatMap percentByte) bytes := by
  induction bytes with
  | nil => exact .nil
  | cons b rest ih => exact (encodes_percentByte b).append ih

/-- Every text can be written so that it may stand in credentials. -/
theorem encodes_percentEncode (s : List Char) :
    Encodes (percentEncode ('%' :: credentialSet) s) (Text.Utf8.encode (String.ofList s)) := by
  rw [Text.Utf8.encode_ofList]
  unfold percentEncode
  induction s with
  | nil => exact .nil
  | cons c rest ih =>
    rw [List.flatMap_cons, List.flatMap_cons]
    refine Encodes.append ?_ ih
    split
    · have bytes : Text.Utf8.encode (String.singleton c) = String.utf8EncodeChar c := by
        rw [String.singleton_eq_ofList, Text.Utf8.encode_ofList]
        simp
      rw [bytes]
      exact encodes_percentBytes _
    · rename_i literal
      simp only [not_or, List.contains_cons, Bool.or_eq_true, not_or, beq_iff_eq] at literal
      obtain ⟨visible, ascii, plain, allowed⟩ := literal
      rw [Text.Utf8.encodeChar_of_ascii (by omega)]
      have noSpace : c.toNat ≠ 0x20 := by
        intro space
        have isSpace : c = ' ' := Char.toNat_inj.mp space
        exact allowed (isSpace ▸ by decide)
      refine .literal ?_ plain .nil
      simp only [isLiteral, Bool.and_eq_true, decide_eq_true_eq, Bool.not_eq_true',
        Bool.eq_false_iff]
      exact ⟨⟨by omega, by omega⟩, allowed⟩

theorem Encodes.of_percentEncode {s : String}
    (written : percentEncode ('%' :: credentialSet) s.toList = text) :
    Encodes text (Text.Utf8.encode s) := by
  have encodes := encodes_percentEncode s.toList
  rw [String.ofList_toList, written] at encodes
  exact encodes

end VmDeploy.Url
