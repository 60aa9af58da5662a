import Mathlib.Data.Rat.Cast.Order
import Mathlib.Tactic.FieldSimp
import Mathlib.Tactic.Linarith
import Mathlib.Tactic.Ring
import VmDeploy.Number.Shortest

/-!
# Shortest decimals tell numbers apart

The shortest decimal of a number lies in the interval of decimals that round to the number
(`Binary64.owned_shortest`), and the intervals of different numbers of one sign have no point in
common (`Binary64.eq_of_owned`): where two intervals touch, one of the two mantissas is odd, and its
interval is without its ends. So numbers of one sign with one shortest decimal are the same
(`Binary64.eq_of_shortest_value`).

Decimals are compared by value; how a value is split into digits and an exponent does not matter.
-/

set_option autoImplicit false

namespace VmDeploy

/-- The value of a decimal. -/
def DecimalNumber.value (d : DecimalNumber) : ℚ := d.digits * (10 : ℚ) ^ d.exponent

/-- Zeros that move from the digits into the exponent leave the value alone. -/
theorem DecimalNumber.value_stripZeros (d : DecimalNumber) (limit : Nat) :
    (d.stripZeros limit).value = d.value := by
  induction limit generalizing d with
  | zero => rfl
  | succ limit ih =>
    unfold stripZeros
    split
    · rename_i zeros
      have split : (d.digits : ℚ) = (d.digits / 10 : Nat) * 10 := by
        exact_mod_cast (Nat.div_mul_cancel (Nat.dvd_of_mod_eq_zero zeros.2)).symm
      rw [ih]
      simp only [value]
      rw [split, zpow_add_one₀ (by norm_num)]
      ring
    · rfl

namespace Binary64

variable {x y : Binary64} {v : ℚ}

/-! ## Intervals -/

/-- The lower end of the interval that rounds to a number, in quarters of a unit. -/
def lowEnd (x : Binary64) : Nat :=
  if x.mantissa = 2 ^ 52 ∧ 0 < x.scale then (4 * x.mantissa - 1) * 2 ^ x.scale
  else (4 * x.mantissa - 2) * 2 ^ x.scale

/-- The upper end of the interval. -/
def highEnd (x : Binary64) : Nat := (4 * x.mantissa + 2) * 2 ^ x.scale

/-- A value rounds to a number; the ends of the interval do if the mantissa is even. -/
def Owned (x : Binary64) (v : ℚ) : Prop :=
  if x.mantissa % 2 = 0 then x.lowEnd ≤ v * (4 * unitsOfOne) ∧ v * (4 * unitsOfOne) ≤ x.highEnd
  else x.lowEnd < v * (4 * unitsOfOne) ∧ v * (4 * unitsOfOne) < x.highEnd

/-- The ends are those that are looked at when a decimal is tried. -/
theorem lowEnd_eq (x : Binary64) :
    x.lowEnd = if x.mantissa = Nat.pow 2 52 ∧ 0 < x.scale then 4 * x.units - Nat.pow 2 x.scale
      else 4 * x.units - 2 * Nat.pow 2 x.scale := by
  simp only [lowEnd, units, Nat.pow_eq, Nat.sub_mul, Nat.one_mul, Nat.mul_assoc]

theorem highEnd_eq (x : Binary64) : x.highEnd = 4 * x.units + 2 * Nat.pow 2 x.scale := by
  simp only [highEnd, units, Nat.pow_eq, Nat.add_mul, Nat.mul_assoc]

theorem Owned.bounds (owned : x.Owned v) :
    x.lowEnd ≤ v * (4 * unitsOfOne) ∧ v * (4 * unitsOfOne) ≤ x.highEnd := by
  unfold Owned at owned
  split at owned
  · exact owned
  · exact ⟨owned.1.le, owned.2.le⟩

theorem Owned.strict (owned : x.Owned v) (odd : x.mantissa % 2 ≠ 0) :
    x.lowEnd < v * (4 * unitsOfOne) ∧ v * (4 * unitsOfOne) < x.highEnd := by
  rwa [Owned, if_neg odd] at owned

/-- The interval of a number ends where that of a greater number begins, or before; if both
mantissas are even the two do not touch. -/
theorem highEnd_le_lowEnd
    (below : x.scale < y.scale ∨ x.scale = y.scale ∧ x.mantissa < y.mantissa) :
    x.highEnd ≤ y.lowEnd ∧
      (x.mantissa % 2 = 0 → y.mantissa % 2 = 0 → x.highEnd < y.lowEnd) := by
  have largest : x.mantissa < 2 ^ 53 := x.representable.1
  rcases below with scales | ⟨scale, mantissas⟩
  · -- The mantissa of the greater has its highest bit, and its steps are at least twice as long.
    have smallest : 2 ^ 52 ≤ y.mantissa :=
      y.representable.2.1.resolve_left (Nat.ne_zero_of_lt scales)
    obtain ⟨c, low, least⟩ : ∃ c, y.lowEnd = c * 2 ^ y.scale ∧ 2 ^ 54 - 1 ≤ c := by
      unfold lowEnd
      split
      · exact ⟨_, rfl, by omega⟩
      · exact ⟨_, rfl, by omega⟩
    have steps : 2 * 2 ^ x.scale ≤ 2 ^ y.scale := by
      rw [← Nat.pow_succ']
      exact Nat.pow_le_pow_right Nat.two_pos scales
    have far : 2 * c * 2 ^ x.scale ≤ y.lowEnd := by
      rw [low, Nat.mul_comm 2 c, Nat.mul_assoc]
      exact Nat.mul_le_mul_left c steps
    refine ⟨(Nat.mul_le_mul_right _ (by omega)).trans far, fun even _ => ?_⟩
    exact (Nat.mul_lt_mul_of_pos_right (by omega) (Nat.two_pow_pos _)).trans_le far
  · have low : (4 * y.mantissa - 2) * 2 ^ x.scale ≤ y.lowEnd := by
      unfold lowEnd
      rw [scale]
      split
      · exact Nat.mul_le_mul_right _ (by omega)
      · exact le_rfl
    refine ⟨(Nat.mul_le_mul_right _ (by omega)).trans low, fun evenX evenY => ?_⟩
    exact (Nat.mul_lt_mul_of_pos_right (by omega) (Nat.two_pow_pos _)).trans_le low

/-- No value rounds to two numbers of which one is greater. -/
theorem not_owned_of_below
    (below : x.scale < y.scale ∨ x.scale = y.scale ∧ x.mantissa < y.mantissa)
    (ownedX : x.Owned v) (ownedY : y.Owned v) : False := by
  obtain ⟨apart, apartStrictly⟩ := highEnd_le_lowEnd below
  have apart : (x.highEnd : ℚ) ≤ y.lowEnd := by exact_mod_cast apart
  by_cases evenX : x.mantissa % 2 = 0
  · by_cases evenY : y.mantissa % 2 = 0
    · have apart : (x.highEnd : ℚ) < y.lowEnd := by exact_mod_cast apartStrictly evenX evenY
      exact absurd (apart.trans_le (ownedY.bounds.1.trans ownedX.bounds.2)) (lt_irrefl _)
    · exact absurd (apart.trans_lt ((ownedY.strict evenY).1.trans_le ownedX.bounds.2)) (lt_irrefl _)
  · exact absurd (apart.trans_lt (ownedY.bounds.1.trans_lt (ownedX.strict evenX).2)) (lt_irrefl _)

/-- Numbers of one sign to which one value rounds are the same. -/
theorem eq_of_owned (sign : x.negative = y.negative) (ownedX : x.Owned v) (ownedY : y.Owned v) :
    x = y := by
  rcases Nat.lt_trichotomy x.scale y.scale with less | scale | greater
  · exact (not_owned_of_below (.inl less) ownedX ownedY).elim
  · rcases Nat.lt_trichotomy x.mantissa y.mantissa with less | mantissa | greater
    · exact (not_owned_of_below (.inr ⟨scale, less⟩) ownedX ownedY).elim
    · cases x
      cases y
      simp_all
    · exact (not_owned_of_below (.inr ⟨scale.symm, greater⟩) ownedY ownedX).elim
  · exact (not_owned_of_below (.inl greater) ownedY ownedX).elim

/-! ## Decimals that are tried -/

/-- What is tried as a quotient is owned as a value. -/
theorem owned_of_owns {num den : Nat} (positive : 0 < den) (found : x.owns num den = true) :
    x.Owned (num / den) := by
  have den_pos : (0 : ℚ) < den := by exact_mod_cast positive
  have point : (num / den * (4 * unitsOfOne) : ℚ) = (4 * num * unitsOfOne : Nat) / den := by
    push_cast
    ring
  unfold owns at found
  simp only [← lowEnd_eq, ← highEnd_eq] at found
  unfold Owned
  rw [point, le_div_iff₀ den_pos, lt_div_iff₀ den_pos, div_le_iff₀ den_pos, div_lt_iff₀ den_pos]
  norm_cast
  split at found <;> rename_i parity
  · rw [if_pos parity]
    simpa using found
  · rw [if_neg parity]
    simpa using found

/-- A point of a decimal grid that is tried is owned. -/
theorem owned_of_grid {digits : Nat} {exponent : Int}
    (found : x.owns (digits * Nat.pow 10 exponent.toNat) (Nat.pow 10 (-exponent).toNat) = true) :
    x.Owned (DecimalNumber.value ⟨digits, exponent⟩) := by
  have positive : 0 < Nat.pow 10 (-exponent).toNat := Nat.pow_pos (by decide)
  have owned := owned_of_owns positive found
  have value :
      ((digits * Nat.pow 10 exponent.toNat : Nat) / (Nat.pow 10 (-exponent).toNat : Nat) : ℚ)
        = DecimalNumber.value ⟨digits, exponent⟩ := by
    have split : exponent = exponent.toNat - (-exponent).toNat := by omega
    simp only [DecimalNumber.value, Nat.pow_eq]
    conv_rhs => rw [split, zpow_sub₀ (by norm_num), zpow_natCast, zpow_natCast]
    push_cast
    ring
  rwa [value] at owned

/-- The nearest whole number is one of the two around a quotient. -/
theorem divideToEven_of {num den : Nat} {P : Nat → Prop} (below : P (num / den))
    (above : P (num / den + 1)) : P (divideToEven num den) := by
  simp only [divideToEven]
  split_ifs <;> assumption

/-- Whatever number of digits is enough, the decimal that is found is owned. -/
theorem owned_of_withDigits? {count : Nat} {d : DecimalNumber}
    (found : x.withDigits? count = some d) : x.Owned d.value := by
  simp only [withDigits?] at found
  generalize x.units * Nat.pow 10 (-(x.top - count)).toNat = num at found
  generalize unitsOfOne * Nat.pow 10 (x.top - count).toNat = den at found
  split at found
  · cases found
  · rename_i below _
    cases found
    exact owned_of_grid below
  · rename_i _ above
    cases found
    exact owned_of_grid above
  · rename_i below above
    cases found
    exact divideToEven_of (P := fun digits => x.Owned (DecimalNumber.value ⟨digits, _⟩))
      (owned_of_grid below) (owned_of_grid above)

/-- Every digit of a number is more than enough. -/
theorem owned_exactDecimal (x : Binary64) : x.Owned x.exactDecimal.value := by
  have value : x.exactDecimal.value * (4 * unitsOfOne) = (4 * x.units : Nat) := by
    unfold exactDecimal DecimalNumber.value unitsOfOne
    -- The bits of a unit are many, and a number that is written out is slow to compare.
    generalize unitBits = bits
    have tens : (10 : ℚ) ^ bits = 2 ^ bits * 5 ^ bits := by
      rw [← mul_pow]
      norm_num
    rw [zpow_neg, zpow_natCast, tens, Nat.pow_eq, Nat.pow_eq]
    push_cast
    field_simp
  have low : x.lowEnd ≤ 4 * x.units := by
    rw [lowEnd_eq]
    split <;> omega
  have high : 4 * x.units < x.highEnd := by
    rw [highEnd_eq]
    have : 0 < Nat.pow 2 x.scale := Nat.two_pow_pos _
    omega
  have lowStrict : x.mantissa % 2 ≠ 0 → x.lowEnd < 4 * x.units := by
    intro odd
    have units : 0 < x.units := Nat.mul_pos (by omega) (Nat.two_pow_pos _)
    have : 0 < Nat.pow 2 x.scale := Nat.two_pow_pos _
    rw [lowEnd_eq]
    split <;> omega
  unfold Owned
  rw [value]
  norm_cast
  split
  · exact ⟨low, high.le⟩
  · exact ⟨lowStrict ‹_›, high⟩

/-! ## The shortest decimal -/

theorem owned_zero (zero : x.mantissa = 0) : x.Owned 0 := by
  have even : x.mantissa % 2 = 0 := by omega
  have low : x.lowEnd = 0 := by
    rw [lowEnd, zero]
    split <;> simp
  rw [Owned, if_pos even, zero_mul, low, Nat.cast_zero]
  exact ⟨le_refl 0, Nat.cast_nonneg _⟩

/-- The shortest decimal of a number rounds to the number. -/
theorem owned_shortest (x : Binary64) : x.Owned x.shortest.value := by
  unfold shortest
  split
  · rename_i zero
    have value : DecimalNumber.value ⟨0, 0⟩ = 0 := by simp [DecimalNumber.value]
    exact value ▸ owned_zero (by simpa [isZero] using zero)
  · rw [DecimalNumber.value_stripZeros]
    cases found : ((List.range 17).map (· + 1)).findSome? x.withDigits? with
    | none => exact x.owned_exactDecimal
    | some d =>
      obtain ⟨count, -, found⟩ := List.exists_of_findSome?_eq_some found
      exact owned_of_withDigits? found

/-- Numbers of one sign with one shortest decimal are the same. -/
theorem eq_of_shortest_value (sign : x.negative = y.negative)
    (value : x.shortest.value = y.shortest.value) : x = y :=
  eq_of_owned sign x.owned_shortest (value ▸ y.owned_shortest)

end Binary64

end VmDeploy
