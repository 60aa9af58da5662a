import Mathlib.Data.List.TakeWhile
import Mathlib.Tactic.Convert
import Std.Data.String.ToInt
import VmDeploy.Json.Compact
import VmDeploy.Proofs.Number.Shortest

/-!
# Texts of numbers

The text of a number tells it from every other number (`numberText_injective`), and none of its
characters ends a number (`isNumeric_of_mem_numberText`).

A decimal is written in one of four ways, which are all of the form that `Spelling` describes:
digits with a point among them, and maybe an exponent. What is written so can be read back as a
value (`Spelling.spelled_eq`), so of one sign only numbers with one shortest decimal share a text. A
whole number is told from a floating-point number by the point or the exponent.
-/

set_option autoImplicit false

namespace VmDeploy.Json

/-- The characters that the text of a number consists of. -/
def isNumeric (c : Char) : Bool := c.isDigit || c = '-' || c = '+' || c = '.' || c = 'e'

theorem isNumeric_of_isDigit {c : Char} (digit : c.isDigit = true) : isNumeric c = true := by
  simp [isNumeric, digit]

theorem ne_of_isDigit {c d : Char} (digit : c.isDigit = true) (other : d.isDigit = false) :
    c ≠ d := by
  rintro rfl
  rw [digit] at other
  cases other

/-! ## Reading a text back -/

/-- The power of ten that an exponent spells; without one it is zero. -/
def spelledPower : List Char → Int
  | 'e' :: '+' :: digits => Nat.ofDigitChars 10 digits 0
  | 'e' :: '-' :: digits => -(Nat.ofDigitChars 10 digits 0 : Int)
  | _ => 0

/-- The value that digits, a point among them and an exponent behind them spell. -/
def spelled (text : List Char) : ℚ :=
  let plain := text.takeWhile (· ≠ 'e')
  let whole := plain.takeWhile (· ≠ '.')
  let fraction := (plain.dropWhile (· ≠ '.')).drop 1
  Nat.ofDigitChars 10 (whole ++ fraction) 0
    * (10 : ℚ) ^ (spelledPower (text.dropWhile (· ≠ 'e')) - fraction.length)

/-- An exponent or nothing. -/
def IsPower (text : List Char) : Prop :=
  text = [] ∨ ∃ rest, text = 'e' :: rest ∧ ∀ c ∈ rest, isNumeric c = true

/-- How a decimal is written, and its value: with a point, and an exponent where there is one; or as
a single digit with an exponent. -/
inductive Spelling : List Char → ℚ → Prop
  | point {whole fraction power : List Char} (some : whole ≠ [])
      (digits : ∀ c ∈ whole ++ fraction, c.isDigit = true) (isPower : IsPower power) :
      Spelling (whole ++ '.' :: fraction ++ power)
        (Nat.ofDigitChars 10 (whole ++ fraction) 0
          * (10 : ℚ) ^ (spelledPower power - fraction.length))
  | single {digit : Char} {rest : List Char} (isDigit : digit.isDigit = true)
      (numeric : ∀ c ∈ rest, isNumeric c = true) :
      Spelling (digit :: 'e' :: rest)
        (Nat.ofDigitChars 10 [digit] 0 * (10 : ℚ) ^ spelledPower ('e' :: rest))

namespace Spelling

variable {text : List Char} {v : ℚ}

/-- The value is read back from the text. -/
theorem spelled_eq (spelling : Spelling text v) : spelled text = v := by
  cases spelling with
  | @point whole fraction power some digits isPower =>
    obtain ⟨digitsWhole, digitsFraction⟩ := List.forall_mem_append.mp digits
    have notPower : ∀ c ∈ whole ++ '.' :: fraction, decide (c ≠ 'e') = true :=
      List.forall_mem_append.mpr
        ⟨fun c mem => decide_eq_true (ne_of_isDigit (digitsWhole c mem) rfl),
          List.forall_mem_cons.mpr
            ⟨rfl, fun c mem => decide_eq_true (ne_of_isDigit (digitsFraction c mem) rfl)⟩⟩
    have notPoint : ∀ c ∈ whole, decide (c ≠ '.') = true :=
      fun c mem => decide_eq_true (ne_of_isDigit (digitsWhole c mem) rfl)
    have cut : power.takeWhile (· ≠ 'e') = [] ∧ power.dropWhile (· ≠ 'e') = power := by
      obtain rfl | ⟨rest, rfl, -⟩ := isPower <;> exact ⟨rfl, rfl⟩
    simp only [spelled, List.takeWhile_append_of_pos notPower,
      List.dropWhile_append_of_pos notPower, cut.1, cut.2, List.append_nil,
      List.takeWhile_append_of_pos notPoint, List.dropWhile_append_of_pos notPoint]
    simp
  | single isDigit numeric =>
    simp [spelled, ne_of_isDigit isDigit (d := 'e') rfl, ne_of_isDigit isDigit (d := '.') rfl]

theorem starts (spelling : Spelling text v) : ∃ c rest, text = c :: rest ∧ c.isDigit = true := by
  cases spelling with
  | point some digits isPower =>
    obtain ⟨c, rest, rfl⟩ := List.exists_cons_of_ne_nil some
    exact ⟨c, _, rfl, digits c List.mem_cons_self⟩
  | single isDigit numeric => exact ⟨_, _, rfl, isDigit⟩

theorem isNumeric (spelling : Spelling text v) : ∀ c ∈ text, isNumeric c = true := by
  cases spelling with
  | point some digits isPower =>
    obtain ⟨whole, fraction⟩ := List.forall_mem_append.mp digits
    refine List.forall_mem_append.mpr ⟨List.forall_mem_append.mpr
      ⟨fun c mem => isNumeric_of_isDigit (whole c mem), List.forall_mem_cons.mpr
        ⟨rfl, fun c mem => isNumeric_of_isDigit (fraction c mem)⟩⟩, ?_⟩
    obtain rfl | ⟨rest, rfl, numeric⟩ := isPower
    · exact nofun
    · exact List.forall_mem_cons.mpr ⟨rfl, numeric⟩
  | single isDigit numeric =>
    exact List.forall_mem_cons.mpr
      ⟨isNumeric_of_isDigit isDigit, List.forall_mem_cons.mpr ⟨rfl, numeric⟩⟩

/-- The text is not that of a whole number. -/
theorem isMarked (spelling : Spelling text v) : ∃ c ∈ text, c = '.' ∨ c = 'e' := by
  cases spelling with
  | point some digits isPower =>
    exact ⟨'.', List.mem_append_left _ (List.mem_append_right _ List.mem_cons_self), .inl rfl⟩
  | single isDigit numeric => exact ⟨'e', List.mem_cons_of_mem _ List.mem_cons_self, .inr rfl⟩

/-- A decimal does not start with a sign, so it is seen whether there is one. -/
theorem sign_append_inj {text' : List Char} {v' : ℚ} {a b : Bool} (spelling : Spelling text v)
    (spelling' : Spelling text' v')
    (same : (if a then ['-'] else []) ++ text = (if b then ['-'] else []) ++ text') :
    a = b ∧ text = text' := by
  obtain ⟨c, rest, rfl, digit⟩ := spelling.starts
  obtain ⟨d, rest', rfl, digit'⟩ := spelling'.starts
  have unsigned : c ≠ '-' := ne_of_isDigit digit rfl
  have unsigned' : d ≠ '-' := ne_of_isDigit digit' rfl
  cases a <;> cases b
  · exact ⟨rfl, same⟩
  · exact absurd (List.cons.inj same).1 unsigned
  · exact absurd (List.cons.inj same).1.symm unsigned'
  · exact ⟨rfl, (List.cons.inj same).2⟩

end Spelling

/-! ## What numbers are written as -/

theorem toList_toString_nat (n : Nat) : (toString n).toList = Nat.toDigits 10 n := by
  rw [Nat.toString_eq_ofList_toDigits, String.toList_ofList]

theorem toList_toString_int (n : Int) :
    (toString n).toList
      = if 0 ≤ n then Nat.toDigits 10 n.toNat else '-' :: Nat.toDigits 10 (-n).toNat := by
  rw [Int.toString_eq_repr, Int.repr_eq_if]
  split <;> simp [Nat.repr_eq_ofList_toDigits]

theorem isDigit_of_mem_toDigits {n : Nat} {c : Char} (mem : c ∈ Nat.toDigits 10 n) :
    c.isDigit = true :=
  Nat.isDigit_of_mem_toDigits (by decide) (by decide) mem

/-- A whole number is written with digits and maybe a sign. -/
theorem of_mem_toString_int {n : Int} :
    ∀ c ∈ (toString n).toList, isNumeric c = true ∧ c ≠ '.' ∧ c ≠ 'e' := by
  have digits {k : Nat} : ∀ c ∈ Nat.toDigits 10 k, isNumeric c = true ∧ c ≠ '.' ∧ c ≠ 'e' := by
    intro c mem
    have digit := isDigit_of_mem_toDigits mem
    exact ⟨isNumeric_of_isDigit digit, ne_of_isDigit digit rfl, ne_of_isDigit digit rfl⟩
  rw [toList_toString_int]
  split
  · exact digits
  · exact List.forall_mem_cons.mpr ⟨by decide, digits⟩

/-- An exponent spells the place of the point. -/
theorem spelledPower_exponent (point : Int) :
    spelledPower ('e' :: ((if 0 < point then ['+'] else []) ++ (toString (point - 1)).toList))
      = point - 1 := by
  rw [toList_toString_int]
  split_ifs <;> simp [spelledPower] <;> omega

theorem isNumeric_exponent (point : Int) :
    ∀ c ∈ (if 0 < point then ['+'] else []) ++ (toString (point - 1)).toList,
      isNumeric c = true := by
  refine List.forall_mem_append.mpr ⟨?_, fun c mem => (of_mem_toString_int c mem).1⟩
  split
  · exact List.forall_mem_singleton.mpr rfl
  · exact nofun

theorem isDigit_zeros (count : Nat) : ∀ c ∈ List.replicate count '0', c.isDigit = true := by
  intro c mem
  rw [List.eq_of_mem_replicate mem]
  rfl

/-- Each of the four ways to write a decimal spells its value. -/
theorem spelling_decimalText (d : DecimalNumber) : Spelling (decimalText d) d.value := by
  obtain ⟨n, exponent⟩ := d
  have isDigit := fun c => @isDigit_of_mem_toDigits n c
  have value : Nat.ofDigitChars 10 (Nat.toDigits 10 n) 0 = n := Nat.ofDigitChars_ten_toDigits
  have nonempty : Nat.toDigits 10 n ≠ [] := Nat.toDigits_ne_nil
  have plain : IsPower [] := .inl rfl
  simp only [decimalText, DecimalNumber.value, toList_toString_nat]
  generalize Nat.toDigits 10 n = digits at value isDigit nonempty
  subst value
  split
  · -- Zeros fill the places up to the point, and one stands behind it.
    rename_i whole
    obtain ⟨zeros, rfl⟩ := Int.eq_ofNat_of_zero_le whole.1
    have inFront := List.forall_mem_append.mpr ⟨isDigit, isDigit_zeros zeros⟩
    have spelling := Spelling.point (by simp [nonempty])
      (List.forall_mem_append.mpr ⟨inFront, isDigit_zeros 1⟩) plain
    convert spelling using 1
    · simp
    · rw [List.append_assoc, ← List.replicate_add, Nat.ofDigitChars_append,
        Nat.ofDigitChars_replicate_zero, pow_succ']
      simp [spelledPower]
      ring
  · split
    · -- The point stands among the digits.
      rename_i fractional inside
      generalize place : ((digits.length : Int) + exponent).toNat = count
      have some : digits.take count ≠ [] := by
        intro empty
        rcases List.take_eq_nil_iff.mp empty with zero | none
        · omega
        · exact nonempty none
      have split := List.take_append_drop count digits
      convert Spelling.point some (split.symm ▸ isDigit) plain using 1
      · simp
      · rw [split, List.length_drop]
        congr 2
        simp only [spelledPower]
        omega
    · split
      · -- Zeros stand between the point and the digits.
        generalize zeros : (-((digits.length : Int) + exponent)).toNat = count
        have behind := List.forall_mem_append.mpr ⟨isDigit_zeros count, isDigit⟩
        have spelling := Spelling.point (List.cons_ne_nil '0' [])
          (List.forall_mem_append.mpr ⟨isDigit_zeros 1, behind⟩) plain
        convert spelling using 1
        · simp
        · rw [← List.append_assoc, ← List.replicate_one, ← List.replicate_add,
            Nat.ofDigitChars_append, Nat.ofDigitChars_replicate_zero]
          congr 2
          simp [spelledPower]
          omega
      · -- The point stands behind the first digit, and an exponent says where it belongs.
        have spells := spelledPower_exponent (digits.length + exponent)
        have numeric := isNumeric_exponent (digits.length + exponent)
        simp only [List.cons_append] at spells ⊢
        generalize (if 0 < (digits.length : Int) + exponent then ['+'] else [])
          ++ (toString (digits.length + exponent - 1)).toList = power at spells numeric ⊢
        obtain _ | ⟨d, _ | ⟨e, rest⟩⟩ := digits
        · exact absurd rfl nonempty
        · convert Spelling.single (isDigit d List.mem_cons_self) numeric using 1
          rw [spells]
          congr 2
          simp
        · have isPower : IsPower ('e' :: power) := .inr ⟨power, rfl, numeric⟩
          convert Spelling.point (List.cons_ne_nil d []) isDigit isPower using 1
          · rfl
          · rw [spells]
            congr 2
            simp only [List.length_cons]
            omega

/-- A floating-point number is written as its sign and its shortest decimal, zero too. -/
theorem doubleText_eq (x : Binary64) :
    doubleText x = (if x.negative then ['-'] else []) ++ decimalText x.shortest := by
  unfold doubleText
  by_cases zero : x.isZero = true
  · have shortest : x.shortest = ⟨0, 0⟩ := by simp [Binary64.shortest, zero]
    rw [if_pos zero, shortest]
    rfl
  · rw [if_neg zero]

/-! ## Numbers are told apart -/

theorem isNumeric_of_mem_numberText {n : JsonNumber} :
    ∀ c ∈ numberText n, isNumeric c = true := by
  cases n with
  | integer value => exact fun c mem => (of_mem_toString_int c mem).1
  | double x =>
    rw [numberText, doubleText_eq]
    refine List.forall_mem_append.mpr ⟨?_, (spelling_decimalText x.shortest).isNumeric⟩
    split
    · exact List.forall_mem_singleton.mpr rfl
    · exact nofun

theorem numberText_ne_nil (n : JsonNumber) : numberText n ≠ [] := by
  cases n with
  | integer value =>
    rw [numberText, toList_toString_int]
    split
    · exact Nat.toDigits_ne_nil
    · exact List.cons_ne_nil _ _
  | double x =>
    obtain ⟨c, rest, text, -⟩ := (spelling_decimalText x.shortest).starts
    rw [numberText, doubleText_eq, text]
    exact List.append_ne_nil_of_right_ne_nil _ (List.cons_ne_nil c rest)

/-- A whole number and a floating-point number have different texts. -/
theorem numberText_integer_ne_double (n : Int) (x : Binary64) :
    numberText (.integer n) ≠ numberText (.double x) := by
  intro same
  obtain ⟨c, mem, mark⟩ := (spelling_decimalText x.shortest).isMarked
  rw [numberText, numberText, doubleText_eq] at same
  obtain ⟨-, notPoint, notPower⟩ := of_mem_toString_int c (same ▸ List.mem_append_right _ mem)
  exact mark.elim notPoint notPower

theorem doubleText_injective {x y : Binary64} (same : doubleText x = doubleText y) : x = y := by
  rw [doubleText_eq, doubleText_eq] at same
  obtain ⟨sign, decimal⟩ := (spelling_decimalText x.shortest).sign_append_inj
    (spelling_decimalText y.shortest) same
  refine Binary64.eq_of_shortest_value sign ?_
  rw [← (spelling_decimalText x.shortest).spelled_eq, decimal,
    (spelling_decimalText y.shortest).spelled_eq]

/-- The text of a number tells it from every other number. -/
theorem numberText_injective {m n : JsonNumber} (same : numberText m = numberText n) : m = n := by
  cases m with
  | integer a =>
    cases n with
    | integer b =>
      have value : a = b := Int.repr_injective (String.toList_injective same)
      rw [value]
    | double y => exact absurd same (numberText_integer_ne_double a y)
  | double x =>
    cases n with
    | integer b => exact absurd same.symm (numberText_integer_ne_double b x)
    | double y => rw [doubleText_injective same]

end VmDeploy.Json
