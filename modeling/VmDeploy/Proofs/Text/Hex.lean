import VmDeploy.Proofs.Text.Ascii
import VmDeploy.Text.Hex

/-!
# Which texts are hexadecimal

Bytes are read from a text exactly if it is the one that is written for them, up to the case of its
letters (`decode?_eq_some_iff`). So bytes are read back from the text that is written for them, and
different bytes have different texts.
-/

set_option autoImplicit false

namespace VmDeploy.Text.Hex

variable {n : Nat} {c : Char} {s : List Char} {bytes bytes' : List UInt8}

/-! ## Single digits -/

theorem toNat_le_toLower (c : Char) : c.toNat ≤ c.toLower.toNat := by
  unfold Char.toLower
  split
  · rename_i capital
    have last : c.val.toNat ≤ 90 := UInt32.le_iff_toNat_le.mp capital.2
    have offset : ('a'.val - 'A'.val).toNat = 32 := by decide
    show c.val.toNat ≤ (c.val + ('a'.val - 'A'.val)).toNat
    rw [UInt32.toNat_add, offset]
    omega
  · exact Nat.le_refl _

/-- A character that may be a digit is an ASCII character. -/
theorem toNat_lt_of_value? (known : value? c = some n) : c.toNat < 128 := by
  unfold value? at known
  split at known
  · rename_i range
    exact Nat.lt_of_le_of_lt range.2 (by decide)
  · split at known
    · rename_i range
      exact Nat.lt_of_le_of_lt range.2 (by decide)
    · split at known
      · rename_i range
        exact Nat.lt_of_le_of_lt range.2 (by decide)
      · cases known

/-- A character has the value of the digit that it is, up to its case. -/
theorem value?_eq_some_iff : value? c = some n ↔ n < 16 ∧ c.toLower = digit n := by
  have of_value : ∀ k : Fin 128, ∀ v ∈ value? (Char.ofNat k),
      v < 16 ∧ (Char.ofNat k).toLower = digit v := by decide
  have to_value : ∀ k : Fin 128, ∀ v : Fin 16,
      (Char.ofNat k).toLower = digit v → value? (Char.ofNat k) = some v.val := by decide +kernel
  constructor
  · intro known
    obtain ⟨k, rfl⟩ := exists_ascii (toNat_lt_of_value? known)
    exact of_value k n known
  · rintro ⟨below, same⟩
    have ascii : ∀ v : Fin 16, (digit v).toNat < 128 := by decide
    have small : c.toNat < 128 :=
      Nat.lt_of_le_of_lt (toNat_le_toLower c) (same ▸ ascii ⟨n, below⟩)
    obtain ⟨k, rfl⟩ := exists_ascii small
    exact to_value k ⟨n, below⟩ same

theorem toLower_digit (below : n < 16) : (digit n).toLower = digit n := by
  have all : ∀ v : Fin 16, (digit v).toLower = digit v := by decide
  exact all ⟨n, below⟩

/-- A digit is read back. -/
theorem value?_digit (below : n < 16) : value? (digit n) = some n :=
  value?_eq_some_iff.mpr ⟨below, toLower_digit below⟩

/-! ## Bytes -/

theorem encode_cons (b : UInt8) (bytes : List UInt8) :
    encode (b :: bytes) = digit (b.toNat / 16) :: digit (b.toNat % 16) :: encode bytes := rfl

theorem high_lt (b : UInt8) : b.toNat / 16 < 16 := Nat.div_lt_of_lt_mul b.toNat_lt

theorem low_lt (b : UInt8) : b.toNat % 16 < 16 := Nat.mod_lt _ (by decide)

/-- Bytes are read exactly from their own text, whatever the case of its letters. -/
theorem decode?_eq_some_iff : decode? s = some bytes ↔ s.map Char.toLower = encode bytes := by
  fun_induction decode? s generalizing bytes with
  | case1 => cases bytes <;> simp [encode]
  | case2 c =>
    refine iff_of_false nofun ?_
    cases bytes <;> simp [encode]
  | case3 a b rest ih =>
    constructor
    · intro read
      obtain ⟨high, knownHigh, read⟩ := Option.bind_eq_some_iff.mp read
      obtain ⟨low, knownLow, read⟩ := Option.bind_eq_some_iff.mp read
      obtain ⟨tail, decoded, read⟩ := Option.bind_eq_some_iff.mp read
      cases read
      obtain ⟨highFits, high_eq⟩ := value?_eq_some_iff.mp knownHigh
      obtain ⟨lowFits, low_eq⟩ := value?_eq_some_iff.mp knownLow
      have byte : (UInt8.ofNat (16 * high + low)).toNat = 16 * high + low :=
        UInt8.toNat_ofNat_of_lt' (show 16 * high + low < 256 by omega)
      have divided : (16 * high + low) / 16 = high := by omega
      have remaining : (16 * high + low) % 16 = low := by omega
      rw [encode_cons, byte, divided, remaining, List.map_cons, List.map_cons, high_eq, low_eq,
        ih.mp decoded]
    · intro same
      cases bytes with
      | nil => cases same
      | cons byte bytes =>
        rw [encode_cons, List.map_cons, List.map_cons] at same
        injection same with high_eq same
        injection same with low_eq same
        have whole : 16 * (byte.toNat / 16) + byte.toNat % 16 = byte.toNat := Nat.div_add_mod _ _
        simp only [value?_eq_some_iff.mpr ⟨high_lt byte, high_eq⟩,
          value?_eq_some_iff.mpr ⟨low_lt byte, low_eq⟩, ih.mpr same, Option.bind_eq_bind,
          Option.bind_some, Option.pure_def, whole, UInt8.ofNat_toNat]

theorem toLower_encode (bytes : List UInt8) : (encode bytes).map Char.toLower = encode bytes := by
  induction bytes with
  | nil => rfl
  | cons b rest ih =>
    rw [encode_cons, List.map_cons, List.map_cons, toLower_digit (high_lt b),
      toLower_digit (low_lt b), ih]

theorem decode?_encode (bytes : List UInt8) : decode? (encode bytes) = some bytes :=
  decode?_eq_some_iff.mpr (toLower_encode bytes)

theorem encode_injective (same : encode bytes = encode bytes') : bytes = bytes' :=
  Option.some.inj (by rw [← decode?_encode, same, decode?_encode])

/-- Two digits are written for each byte. -/
@[simp] theorem length_encode (bytes : List UInt8) : (encode bytes).length = 2 * bytes.length := by
  induction bytes with
  | nil => rfl
  | cons b rest ih =>
    rw [encode_cons, List.length_cons, List.length_cons, ih, List.length_cons]
    omega

end VmDeploy.Text.Hex
