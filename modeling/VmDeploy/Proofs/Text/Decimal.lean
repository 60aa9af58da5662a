import VmDeploy.Text.Decimal

/-!
# Which texts are numbers

A text is read as an unsigned number exactly if it consists of decimal digits, at least one of
them, behind at most one plus sign, and the number that they spell lies below the bound
(`readUnsigned_eq_ok_iff`). Zeros in front do not count.

The values read on the way to the last digit never exceed the last one, so it does not matter that
each of them is held against the bound.
-/

set_option autoImplicit false

namespace VmDeploy.Text.Decimal

/-- A text is an unsigned decimal number with a value. -/
def Spells (s : List Char) (n : Nat) : Prop :=
  ∃ digits, digits ≠ [] ∧ (∀ c ∈ digits, c.isDigit = true) ∧ (s = digits ∨ s = '+' :: digits) ∧
    n = Nat.ofDigitChars 10 digits 0

variable {bound value m n : Nat} {c : Char} {s : List Char}

theorem digit?_eq (c : Char) :
    digit? c = if c.isDigit = true then some (c.toNat - '0'.toNat) else none := by
  have same : ('0' ≤ c ∧ c ≤ '9') ↔ c.isDigit = true := by
    simp [Char.isDigit, Char.le_def]
  simp only [digit?, same]

/-- More digits do not make a number smaller. -/
theorem le_ofDigitChars (s : List Char) (value : Nat) : value ≤ Nat.ofDigitChars 10 s value := by
  induction s generalizing value with
  | nil => exact Nat.le_refl value
  | cons c rest ih =>
    rw [Nat.ofDigitChars_cons]
    exact Nat.le_trans (by omega) (ih _)

theorem readDigits_eq_ok_iff (below : value < bound) :
    readDigits bound value s = .ok n ↔
      (∀ c ∈ s, c.isDigit = true) ∧ n = Nat.ofDigitChars 10 s value ∧ n < bound := by
  induction s generalizing value with
  | nil =>
    simp only [readDigits, Except.ok.injEq, List.not_mem_nil, false_implies, implies_true,
      Nat.ofDigitChars_nil, true_and]
    constructor
    · rintro rfl
      exact ⟨rfl, below⟩
    · exact fun spelled => spelled.1.symm
  | cons c rest ih =>
    rw [readDigits, digit?_eq, List.forall_mem_cons, Nat.ofDigitChars_cons, Nat.mul_comm 10 value]
    cases digit : c.isDigit with
    | false => simp
    | true =>
      simp only [if_true, true_and]
      split
      · rename_i fits
        exact ih fits
      · rename_i large
        -- The value is too large already, and the number is at least as large.
        refine iff_of_false (by simp) ?_
        rintro ⟨-, rfl, fits⟩
        exact large (Nat.lt_of_le_of_lt (le_ofDigitChars rest _) fits)

/-- A text is read as a number exactly if it spells one that fits. -/
theorem readUnsigned_eq_ok_iff (positive : 0 < bound) :
    readUnsigned bound s = .ok n ↔ Spells s n ∧ n < bound := by
  constructor
  · intro read
    unfold readUnsigned at read
    split at read
    · cases read
    · cases read
    · rename_i digits some
      obtain ⟨digit, spelled, fits⟩ := (readDigits_eq_ok_iff positive).mp read
      exact ⟨⟨digits, fun none => some (none ▸ rfl), digit, .inr rfl, spelled⟩, fits⟩
    · rename_i some _ _
      obtain ⟨digit, spelled, fits⟩ := (readDigits_eq_ok_iff positive).mp read
      exact ⟨⟨s, some, digit, .inl rfl, spelled⟩, fits⟩
  · rintro ⟨⟨digits, some, digit, text, spelled⟩, fits⟩
    have read := (readDigits_eq_ok_iff positive).mpr ⟨digit, spelled, fits⟩
    obtain ⟨c, rest, rfl⟩ := List.exists_cons_of_ne_nil some
    have unsigned : c ≠ '+' := by
      rintro rfl
      exact absurd (digit '+' List.mem_cons_self) (by decide)
    rcases text with rfl | rfl
    · unfold readUnsigned
      split
      · contradiction
      · rename_i same
        exact absurd (List.cons.inj same).1 unsigned
      · rename_i same
        exact absurd (List.cons.inj same).1 unsigned
      · exact read
    · exact read

/-- A text spells at most one number. -/
theorem Spells.unique (spells : Spells s m) (spells' : Spells s n) : m = n := by
  have reads : ∀ k < m + n + 1, Spells s k → readUnsigned (m + n + 1) s = .ok k :=
    fun k fits spelled => (readUnsigned_eq_ok_iff (Nat.succ_pos _)).mpr ⟨spelled, fits⟩
  have same := (reads m (by omega) spells).symm.trans (reads n (by omega) spells')
  exact Except.ok.inj same

end VmDeploy.Text.Decimal
