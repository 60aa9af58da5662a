import VmDeploy.Text.Base64

/-!
# Bytes are read back from base-64 text

The padding tells how many bytes the last group has; no digit is taken for it.
-/

set_option autoImplicit false

namespace VmDeploy.Text.Base64

variable {n : Nat}

/-- A digit is read back, and is no padding. -/
theorem value?_digit (below : n < 64) : value? (digit n) = some n := by
  have all : ∀ m : Fin 64, value? (digit m) = some m.val := by decide
  exact all ⟨n, below⟩

theorem digit_ne_padding (below : n < 64) : digit n ≠ '=' := by
  have all : ∀ m : Fin 64, digit m ≠ '=' := by decide
  exact all ⟨n, below⟩

/-! ## Groups -/

section

variable {w x y z : Nat}

theorem decode?_one (isW : w < 64) (isX : x < 64) :
    decode? [digit w, digit x, '=', '='] = some [UInt8.ofNat (4 * w + x / 16)] := by
  simp only [decode?, value?_digit isW, value?_digit isX]
  rfl

theorem decode?_two (isW : w < 64) (isX : x < 64) (isY : y < 64) :
    decode? [digit w, digit x, digit y, '=']
      = some [UInt8.ofNat (4 * w + x / 16), UInt8.ofNat (x % 16 * 16 + y / 4)] := by
  rw [decode?]
  · simp only [value?_digit isW, value?_digit isX, value?_digit isY]
    rfl
  · exact digit_ne_padding isY

theorem decode?_three (isW : w < 64) (isX : x < 64) (isY : y < 64) (isZ : z < 64)
    (rest : List Char) :
    decode? (digit w :: digit x :: digit y :: digit z :: rest) = (decode? rest).map fun tail =>
      UInt8.ofNat (4 * w + x / 16) :: UInt8.ofNat (x % 16 * 16 + y / 4)
        :: UInt8.ofNat (y % 4 * 64 + z) :: tail := by
  rw [decode?]
  · simp only [value?_digit isW, value?_digit isX, value?_digit isY, value?_digit isZ]
    cases decode? rest <;> rfl
  · exact fun padding => absurd padding (digit_ne_padding isY)
  · exact fun padding => absurd padding (digit_ne_padding isZ)

end

/-- Bytes are read back from the text that is written for them. -/
theorem decode?_encode (bytes : List UInt8) : decode? (encode bytes) = some bytes := by
  fun_induction encode bytes with
  | case1 => rfl
  | case2 a =>
    have small := a.toNat_lt
    have whole : 4 * (a.toNat / 4) + a.toNat % 4 * 16 / 16 = a.toNat := by omega
    rw [decode?_one (by omega) (by omega), whole, UInt8.ofNat_toNat]
  | case3 a b =>
    have small := a.toNat_lt
    have small' := b.toNat_lt
    have first : 4 * (a.toNat / 4) + (a.toNat % 4 * 16 + b.toNat / 16) / 16 = a.toNat := by omega
    have second : (a.toNat % 4 * 16 + b.toNat / 16) % 16 * 16 + b.toNat % 16 * 4 / 4
        = b.toNat := by omega
    rw [decode?_two (by omega) (by omega) (by omega), first, second, UInt8.ofNat_toNat,
      UInt8.ofNat_toNat]
  | case4 a b c rest ih =>
    have small := a.toNat_lt
    have small' := b.toNat_lt
    have small'' := c.toNat_lt
    have first : 4 * (a.toNat / 4) + (a.toNat % 4 * 16 + b.toNat / 16) / 16 = a.toNat := by omega
    have second : (a.toNat % 4 * 16 + b.toNat / 16) % 16 * 16
        + (b.toNat % 16 * 4 + c.toNat / 64) / 4 = b.toNat := by omega
    have third : (b.toNat % 16 * 4 + c.toNat / 64) % 4 * 64 + c.toNat % 64 = c.toNat := by omega
    rw [decode?_three (by omega) (by omega) (by omega) (by omega), ih, first, second, third,
      UInt8.ofNat_toNat, UInt8.ofNat_toNat, UInt8.ofNat_toNat, Option.map_some]

end VmDeploy.Text.Base64
