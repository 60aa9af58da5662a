import Mathlib.Data.List.Induction
import Mathlib.Data.Nat.Digits.Defs
import Mathlib.Tactic.Ring
import VmDeploy.Proofs.Id.Text

/-!
# Which texts are identifiers of records

A text is the identifier of a record exactly if the prefix is followed by twenty-six digits of
Crockford's base 32, of either case; it is that of the number which they spell, as far as 128 bits
hold it. Every other text is refused for the first reason that applies: it is empty, it has no
separator, something else stands before the first separator, or no such digits stand behind it
(`RecordId.TextForm`).

Small letters and the two bits that are dropped make texts of one identifier of many. Only one of
them is written: the one of capitals whose first digit is at most `7`.
-/

set_option autoImplicit false

namespace VmDeploy

namespace Crockford

/-- The digits with small letters. -/
def small : List Char := "0123456789abcdefghjkmnpqrstvwxyz".toList

/-- A character is the digit of a value, in one case or the other. -/
def IsDigit (c : Char) (v : Nat) : Prop := alphabet[v]? = some c ∨ small[v]? = some c

/-- Characters are digits that spell a number, the most significant first. -/
def Spells (s : List Char) (n : Nat) : Prop :=
  ∃ values, List.Forall₂ IsDigit s values ∧ n = Nat.ofDigits 32 values.reverse

variable {c : Char} {v n : Nat} {s : List Char}

/-! ## Single digits -/

/-- A character that is not its own capital is the small letter of its capital. -/
theorem toLower_toUpper (other : c.toUpper ≠ c) : c.toUpper.toLower = c := by
  unfold Char.toUpper at other ⊢
  split at other
  · rename_i isSmall
    have capital : 'A'.val ≤ c.val + ('A'.val - 'a'.val) ∧
        c.val + ('A'.val - 'a'.val) ≤ 'Z'.val := by
      simp only [UInt32.le_iff_toNat_le, UInt32.toNat_add] at isSmall ⊢
      simp at isSmall ⊢
      omega
    rw [dif_pos isSmall]
    refine (dif_pos capital).trans ?_
    apply Char.ext
    show c.val + ('A'.val - 'a'.val) + ('a'.val - 'A'.val) = c.val
    rw [UInt32.add_assoc]
    exact UInt32.add_zero _
  · exact absurd rfl other

theorem getElem?_of_place? {l : List Char} (here : place? c l = some v) : l[v]? = some c := by
  induction l generalizing v with
  | nil => cases here
  | cons d rest ih =>
    unfold place? at here
    split at here
    · rename_i same
      cases here
      rw [same]
      rfl
    · obtain ⟨i, later, rfl⟩ := Option.map_eq_some_iff.mp here
      exact ih later

/-- There are thirty-two values. -/
theorem IsDigit.lt (digit : IsDigit c v) : v < 32 := by
  rcases digit with here | here
  · exact (List.getElem?_eq_some_iff.mp here).1
  · exact (List.getElem?_eq_some_iff.mp here).1

/-- A digit has the value that its place gives it. -/
theorem value?_eq_some_iff : value? c = some v ↔ IsDigit c v := by
  constructor
  · intro known
    have place := getElem?_of_place? known
    by_cases same : c.toUpper = c
    · rw [same] at place
      exact .inl place
    · have letters : small = alphabet.map Char.toLower := by decide
      refine .inr ?_
      rw [letters, List.getElem?_map, place, Option.map_some, toLower_toUpper same]
  · intro digit
    have all : ∀ i : Fin 32, alphabet[i.val]?.bind value? = some i.val ∧
        small[i.val]?.bind value? = some i.val := by decide
    obtain ⟨capital, letter⟩ : alphabet[v]?.bind value? = some v ∧
        small[v]?.bind value? = some v := all ⟨v, digit.lt⟩
    rcases digit with here | here
    · rwa [here] at capital
    · rwa [here] at letter

/-- Every digit takes one byte. -/
theorem IsDigit.utf8Size (isDigit : IsDigit c v) : c.utf8Size = 1 := by
  have all : ∀ i : Fin 32, alphabet[i.val]?.map Char.utf8Size = some 1 ∧
      small[i.val]?.map Char.utf8Size = some 1 := by decide
  obtain ⟨capital, letter⟩ : alphabet[v]?.map Char.utf8Size = some 1 ∧
    small[v]?.map Char.utf8Size = some 1 := all ⟨v, isDigit.lt⟩
  rcases isDigit with here | here
  · rw [here] at capital
    exact Option.some.inj capital
  · rw [here] at letter
    exact Option.some.inj letter

/-! ## Numbers -/

theorem decodeFrom_eq_some_iff {start : Nat} :
    decodeFrom start s = some n ↔ ∃ values, List.Forall₂ IsDigit s values ∧
      n = start * 32 ^ s.length + Nat.ofDigits 32 values.reverse := by
  induction s generalizing start with
  | nil => simp [decodeFrom, eq_comm]
  | cons c rest ih =>
    have step {v : Nat} {values : List Nat} (digits : List.Forall₂ IsDigit rest values) :
        (start * 32 + v) * 32 ^ rest.length + Nat.ofDigits 32 values.reverse
          = start * 32 ^ (c :: rest).length + Nat.ofDigits 32 (v :: values).reverse := by
      rw [List.reverse_cons, Nat.ofDigits_append, Nat.ofDigits_singleton, List.length_reverse,
        ← digits.length_eq, List.length_cons, Nat.pow_succ']
      ring
    rw [decodeFrom]
    constructor
    · intro read
      obtain ⟨v, known, later⟩ := Option.bind_eq_some_iff.mp read
      obtain ⟨values, digits, rfl⟩ := ih.mp later
      exact ⟨v :: values, .cons (value?_eq_some_iff.mp known) digits, step digits⟩
    · rintro ⟨_, _ | ⟨digit, digits⟩, rfl⟩
      exact Option.bind_eq_some_iff.mpr
        ⟨_, value?_eq_some_iff.mpr digit, ih.mpr ⟨_, digits, (step digits).symm⟩⟩

/-- The number that digits spell is the one that is read. -/
theorem decode?_eq_some_iff : decode? s = some n ↔ Spells s n := by
  simp [decode?, decodeFrom_eq_some_iff, Spells]

/-- The digits that are written for a number are those of the values that it is made of. -/
theorem encode_ofDigits {values : List Nat} (small : ∀ v ∈ values, v < 32) :
    encode values.length (Nat.ofDigits 32 values.reverse) = values.map digit := by
  induction values using List.reverseRecOn with
  | nil => rfl
  | append_singleton values v ih =>
    obtain ⟨early, last⟩ := List.forall_mem_append.mp small
    have last := last v (List.mem_singleton_self v)
    rw [List.reverse_append, List.reverse_singleton, List.singleton_append, Nat.ofDigits_cons,
      List.length_append, List.length_singleton, encode]
    have quotient : (v + 32 * Nat.ofDigits 32 values.reverse) / 32
        = Nat.ofDigits 32 values.reverse := by omega
    have remainder : (v + 32 * Nat.ofDigits 32 values.reverse) % 32 = v := by omega
    rw [quotient, remainder, ih early, List.map_append, List.map_singleton]

/-- The first digit of a number. -/
theorem encode_succ_eq_cons (count n : Nat) :
    encode (count + 1) n = digit (n / 32 ^ count % 32) :: encode count n := by
  induction count generalizing n with
  | zero => simp [encode]
  | succ count ih =>
    rw [encode, ih, encode, Nat.div_div_eq_div_mul, ← Nat.pow_succ']
    rfl

/-! ## Capitals -/

/-- A digit is no small letter exactly if it is the one that is written for its value. -/
theorem IsDigit.isLower_eq_false_iff (isDigit : IsDigit c v) :
    c.isLower = false ↔ c = digit v := by
  have all : ∀ i : Fin 32, (digit i).isLower = false ∧ alphabet[i.val]? = some (digit i) ∧
      small[i.val]?.all (fun c => c.isLower || c == digit i) = true := by decide
  obtain ⟨capital, here, letter⟩ : (digit v).isLower = false ∧ alphabet[v]? = some (digit v) ∧
    small[v]?.all (fun c => c.isLower || c == digit v) = true := all ⟨v, isDigit.lt⟩
  constructor
  · intro isCapital
    rcases isDigit with among | among
    · rw [here] at among
      exact (Option.some.inj among).symm
    · rw [among] at letter
      simpa [isCapital] using letter
  · rintro rfl
    exact capital

/-- Digits are no small letters exactly if they are those that are written for their values. -/
theorem eq_map_digit_iff {values : List Nat} (digits : List.Forall₂ IsDigit s values) :
    (∀ c ∈ s, c.isLower = false) ↔ s = values.map digit := by
  induction digits with
  | nil => simp
  | cons here _ ih =>
    rw [List.forall_mem_cons, here.isLower_eq_false_iff, ih, List.map_cons, List.cons.injEq]

theorem lt_of_isDigit {values : List Nat} (digits : List.Forall₂ IsDigit s values) :
    ∀ v ∈ values, v < 32 := by
  induction digits with
  | nil => exact List.forall_mem_nil _
  | cons here _ ih => exact List.forall_mem_cons.mpr ⟨here.lt, ih⟩

theorem digit_le_iff (small : v < 32) : digit v ≤ '7' ↔ v < 8 := by
  have all : ∀ i : Fin 32, digit i ≤ '7' ↔ i.val < 8 := by decide
  exact all ⟨v, small⟩

theorem isLower_encode (count n : Nat) : ∀ c ∈ encode count n, c.isLower = false := by
  have all : ∀ i : Fin 32, (digit i).isLower = false := by decide
  induction count generalizing n with
  | zero => simp [encode]
  | succ count ih =>
    rw [encode]
    exact List.forall_mem_append.mpr ⟨ih _, List.forall_mem_singleton.mpr
      (all ⟨n % 32, Nat.mod_lt _ (by decide)⟩)⟩

end Crockford

namespace RecordId

open Crockford (IsDigit Spells)

/-! ## Separators and bytes -/

variable {s : String} {id : RecordId} {digits before behind : List Char} {n : Nat}

/-- Digits behind the prefix and the separator. -/
def prefixed (digits : List Char) : String := kindPrefix ++ "_" ++ String.ofList digits

theorem splitSeparator_eq_none_iff : splitSeparator digits = none ↔ '_' ∉ digits := by
  induction digits with
  | nil => simp [splitSeparator]
  | cons c rest ih =>
    by_cases here : c = '_'
    · simp [splitSeparator, here]
    · simp [splitSeparator, here, ih, Ne.symm here]

/-- A text is split at its first separator. -/
theorem splitSeparator_eq_some_iff :
    splitSeparator digits = some (before, behind) ↔
      digits = before ++ '_' :: behind ∧ '_' ∉ before := by
  induction digits generalizing before with
  | nil => simp [splitSeparator]
  | cons c rest ih =>
    rw [splitSeparator]
    split
    · rename_i here
      subst here
      constructor
      · rintro ⟨⟩
        exact ⟨rfl, List.not_mem_nil⟩
      · rintro ⟨split, first⟩
        rcases before with _ | ⟨d, before⟩
        · cases split
          rfl
        · cases split
          exact absurd List.mem_cons_self first
    · rename_i other
      rw [Option.map_eq_some_iff]
      constructor
      · rintro ⟨⟨early, late⟩, splits, heq⟩
        cases heq
        obtain ⟨rfl, first⟩ := ih.mp splits
        exact ⟨rfl, fun mem => (List.mem_cons.mp mem).elim (other ∘ Eq.symm) first⟩
      · rintro ⟨split, first⟩
        rcases before with _ | ⟨d, before⟩
        · cases split
          exact absurd rfl other
        · cases split
          exact ⟨(before, behind), ih.mpr ⟨rfl, fun mem => first (List.mem_cons_of_mem _ mem)⟩, rfl⟩

/-- Digits take as many bytes as there are digits. -/
theorem byteCount_of_spells (spells : Spells digits n) : byteCount digits = digits.length := by
  obtain ⟨values, isDigits, -⟩ := spells
  induction isDigits with
  | nil => rfl
  | cons isDigit _ ih =>
    rw [byteCount, List.foldr_cons, isDigit.utf8Size, List.length_cons, Nat.add_comm]
    exact congrArg (· + 1) ih

theorem toList_prefixed : (prefixed digits).toList = "disk".toList ++ '_' :: digits := by
  simp [prefixed, kindPrefix]

theorem prefixed_injective {digits' : List Char} (same : prefixed digits = prefixed digits') :
    digits = digits' := by
  have chars := congrArg String.toList same
  rw [toList_prefixed, toList_prefixed] at chars
  exact (List.cons.inj (List.append_cancel_left chars)).2

/-! ## What a text reads as -/

/-- What is read from a text, and the first reason for which nothing is. -/
inductive Reads (s : String) : Except IdError RecordId → Prop
  | empty (empty : s = "") : Reads s (.error .empty)
  | missingSeparator (nonempty : s ≠ "") (whole : '_' ∉ s.toList) :
      Reads s (.error .missingSeparator)
  | wrongPrefix {actual behind : String} (split : s = actual ++ "_" ++ behind)
      (first : '_' ∉ actual.toList) (other : actual ≠ kindPrefix) :
      Reads s (.error (.wrongPrefix kindPrefix actual))
  | length {digits : List Char} (split : s = prefixed digits)
      (other : byteCount digits ≠ digitCount) : Reads s (.error (.invalidUlid .length))
  | character {digits : List Char} (split : s = prefixed digits)
      (whole : byteCount digits = digitCount) (unspelled : ∀ n, ¬ Spells digits n) :
      Reads s (.error (.invalidUlid .character))
  | read {digits : List Char} {n : Nat} (split : s = prefixed digits)
      (whole : digits.length = digitCount) (spells : Spells digits n) : Reads s (.ok (.ofNat n))

/-- What stands before and behind the first separator decides what is read. -/
theorem parse_split (split : s.toList = before ++ '_' :: behind) (first : '_' ∉ before) :
    parse s = if before ≠ "disk".toList then
      .error (.wrongPrefix kindPrefix (String.ofList before))
    else (parseDigits behind).mapError .invalidUlid := by
  have nonempty : s.isEmpty = false := by
    rw [Bool.eq_false_iff]
    intro empty
    rw [String.isEmpty_iff.mp empty] at split
    simp at split
  have splits : splitSeparator s.toList = some (before, behind) :=
    splitSeparator_eq_some_iff.mpr ⟨split, first⟩
  simp only [parse, nonempty, splits, Bool.false_eq_true, if_false]
  rfl

theorem parse_prefixed :
    parse (prefixed digits) = (parseDigits digits).mapError .invalidUlid := by
  rw [parse_split toList_prefixed (by decide), if_neg (by simp)]

/-- Behind the prefix digits are read. -/
theorem reads_prefixed (digits : List Char) :
    Reads (prefixed digits) (parse (prefixed digits)) := by
  rw [parse_prefixed, parseDigits]
  split
  · rename_i other
    exact .length rfl other
  · rename_i whole
    have whole := Decidable.not_not.mp whole
    cases decoded : Crockford.decode? digits with
    | none =>
      refine .character rfl whole fun n spells => ?_
      rw [Crockford.decode?_eq_some_iff.mpr spells] at decoded
      cases decoded
    | some n =>
      have spells := Crockford.decode?_eq_some_iff.mp decoded
      exact .read rfl ((byteCount_of_spells spells).symm.trans whole) spells

/-- A text reads as what it is parsed to. -/
theorem reads_parse (s : String) : Reads s (parse s) := by
  by_cases empty : s = ""
  · subst empty
    exact .empty rfl
  cases splits : splitSeparator s.toList with
  | none =>
    have nonempty : s.isEmpty = false := by
      simpa [Bool.eq_false_iff, String.isEmpty_iff] using empty
    simp only [parse, nonempty, splits, Bool.false_eq_true, if_false]
    exact .missingSeparator empty (splitSeparator_eq_none_iff.mp splits)
  | some parts =>
    obtain ⟨before, behind⟩ := parts
    obtain ⟨split, first⟩ := splitSeparator_eq_some_iff.mp splits
    by_cases isPrefix : before = "disk".toList
    · rw [isPrefix, ← toList_prefixed] at split
      rw [String.toList_inj.mp split]
      exact reads_prefixed behind
    · rw [parse_split split first, if_pos isPrefix]
      have whole : s = String.ofList before ++ "_" ++ String.ofList behind :=
        String.toList_inj.mp (by simp [split])
      refine .wrongPrefix whole (by simpa using first) ?_
      intro same
      apply isPrefix
      rw [← String.toList_ofList (l := before), same, kindPrefix]

/-- What is read from a text is what it is parsed to. -/
theorem parse_eq_iff {r : Except IdError RecordId} : parse s = r ↔ Reads s r := by
  constructor
  · rintro rfl
    exact reads_parse s
  · intro reads
    cases reads with
    | empty empty =>
      rw [empty]
      rfl
    | missingSeparator nonempty whole =>
      have nonempty : s.isEmpty = false := by
        simpa [Bool.eq_false_iff, String.isEmpty_iff] using nonempty
      simp [parse, nonempty, splitSeparator_eq_none_iff.mpr whole]
    | @wrongPrefix actual behind split first other =>
      have chars : s.toList = actual.toList ++ '_' :: behind.toList := by simp [split]
      have differs : actual.toList ≠ "disk".toList := fun same => other (String.toList_inj.mp same)
      rw [parse_split chars first, if_pos differs, String.ofList_toList]
    | length split other =>
      rw [split, parse_prefixed, parseDigits, if_pos other]
      rfl
    | character split whole unspelled =>
      have unread : Crockford.decode? _ = none :=
        Option.eq_none_iff_forall_ne_some.mpr fun n read =>
          unspelled n (Crockford.decode?_eq_some_iff.mp read)
      rw [split, parse_prefixed, parseDigits, if_neg (Decidable.not_not.mpr whole), unread]
      rfl
    | read split whole spells =>
      have bytes := (byteCount_of_spells spells).trans whole
      rw [split, parse_prefixed, parseDigits, if_neg (Decidable.not_not.mpr bytes),
        Crockford.decode?_eq_some_iff.mpr spells]
      rfl

theorem parse_eq_ok_iff : parse s = .ok id ↔ ∃ digits n, s = prefixed digits ∧
    digits.length = digitCount ∧ Spells digits n ∧ id.value = n % 2 ^ 128 := by
  rw [parse_eq_iff]
  constructor
  · intro reads
    cases reads with
    | read split whole spells => exact ⟨_, _, split, whole, spells, rfl⟩
  · rintro ⟨digits, n, split, whole, spells, value⟩
    have same : id = ofNat n := by
      cases id
      cases value
      rfl
    rw [same]
    exact .read split whole spells

theorem parse_eq_empty_iff : parse s = .error .empty ↔ s = "" := by
  rw [parse_eq_iff]
  constructor
  · intro reads
    cases reads with
    | empty empty => exact empty
  · exact .empty

theorem parse_eq_missingSeparator_iff :
    parse s = .error .missingSeparator ↔ s ≠ "" ∧ '_' ∉ s.toList := by
  rw [parse_eq_iff]
  constructor
  · intro reads
    cases reads with
    | missingSeparator nonempty whole => exact ⟨nonempty, whole⟩
  · rintro ⟨nonempty, whole⟩
    exact .missingSeparator nonempty whole

theorem parse_eq_wrongPrefix_iff {expected actual : String} :
    parse s = .error (.wrongPrefix expected actual) ↔ expected = kindPrefix ∧
      actual ≠ kindPrefix ∧ '_' ∉ actual.toList ∧ ∃ behind, s = actual ++ "_" ++ behind := by
  rw [parse_eq_iff]
  constructor
  · intro reads
    cases reads with
    | wrongPrefix split first other => exact ⟨rfl, other, first, _, split⟩
  · rintro ⟨rfl, other, first, behind, split⟩
    exact .wrongPrefix split first other

theorem parse_eq_invalidUlid_iff : (∃ fault, parse s = .error (.invalidUlid fault)) ↔
    (∃ digits, s = prefixed digits) ∧ ∀ id, parse s ≠ .ok id := by
  constructor
  · rintro ⟨fault, refused⟩
    refine ⟨?_, fun id read => ?_⟩
    · cases parse_eq_iff.mp refused with
      | length split _ | character split _ _ => exact ⟨_, split⟩
    · rw [refused] at read
      cases read
  · rintro ⟨⟨digits, rfl⟩, unread⟩
    rw [parse_prefixed] at unread ⊢
    cases read : parseDigits digits with
    | ok id =>
      rw [read] at unread
      exact absurd rfl (unread id)
    | error fault => exact ⟨fault, rfl⟩

/-! ## The text that is written -/

/-- Numbers of 128 bits are those whose first digit of twenty-six is below eight. -/
theorem two_pow_eq : 2 ^ 128 = 32 ^ 25 * 8 := by norm_num

/-- The first digit that is written is at most `7`. -/
theorem head?_digits_le (id : RecordId) : ∀ first ∈ id.digits.head?, first ≤ '7' := by
  have least : id.value / 32 ^ 25 < 8 := Nat.div_lt_of_lt_mul (two_pow_eq ▸ id.value_lt)
  rw [RecordId.digits, digitCount, Crockford.encode_succ_eq_cons,
    Nat.mod_eq_of_lt (Nat.lt_trans least (by decide))]
  rintro _ ⟨⟩
  exact (Crockford.digit_le_iff (Nat.lt_trans least (by decide))).mpr least

/-- Twenty-six digits spell a number of 128 bits if the first is at most `7`. -/
theorem ofDigits_lt {v : Nat} {values : List Nat} (least : v < 8)
    (small : ∀ v ∈ values, v < 32) (whole : (v :: values).length = digitCount) :
    Nat.ofDigits 32 (v :: values).reverse < 2 ^ 128 := by
  have length : values.length = 25 := Nat.succ.inj whole
  have later : Nat.ofDigits 32 values.reverse < 32 ^ 25 := by
    rw [← length, ← List.length_reverse]
    exact Nat.ofDigits_lt_base_pow_length (by decide) fun v mem => small v (List.mem_reverse.mp mem)
  rw [List.reverse_cons, Nat.ofDigits_append, Nat.ofDigits_singleton, List.length_reverse, length,
    two_pow_eq]
  omega

/-- Of the texts of an identifier the one is written that has capitals only and at most `7` as its
first digit. -/
theorem digits_ofNat_eq_iff (whole : digits.length = digitCount) (spells : Spells digits n) :
    (ofNat n).digits = digits ↔
      (∀ c ∈ digits, c.isLower = false) ∧ ∀ first ∈ digits.head?, first ≤ '7' := by
  constructor
  · intro written
    rw [← written]
    exact ⟨Crockford.isLower_encode _ _, head?_digits_le _⟩
  · rintro ⟨capitals, least⟩
    obtain ⟨values, isDigits, rfl⟩ := spells
    obtain rfl := (Crockford.eq_map_digit_iff isDigits).mp capitals
    have small : ∀ v ∈ values, v < 32 := Crockford.lt_of_isDigit isDigits
    rw [List.length_map] at whole
    cases values with
    | nil => cases whole
    | cons v values =>
      obtain ⟨first, others⟩ := List.forall_mem_cons.mp small
      have fits := ofDigits_lt ((Crockford.digit_le_iff first).mp (least _ rfl)) others whole
      have value : (ofNat (Nat.ofDigits 32 (v :: values).reverse)).value
          = Nat.ofDigits 32 (v :: values).reverse := Nat.mod_eq_of_lt fits
      rw [RecordId.digits, value, ← whole, Crockford.encode_ofDigits small]

/-- What texts of identifiers are, and what is written of an identifier that was read. -/
structure TextForm (s : String) : Prop where
  ok_iff : ∀ id, parse s = .ok id ↔ ∃ digits n, s = prefixed digits ∧
    digits.length = digitCount ∧ Spells digits n ∧ id.value = n % 2 ^ 128
  empty_iff : parse s = .error .empty ↔ s = ""
  missingSeparator_iff : parse s = .error .missingSeparator ↔ s ≠ "" ∧ '_' ∉ s.toList
  wrongPrefix_iff : ∀ expected actual, parse s = .error (.wrongPrefix expected actual) ↔
    expected = kindPrefix ∧ actual ≠ kindPrefix ∧ '_' ∉ actual.toList ∧
      ∃ behind, s = actual ++ "_" ++ behind
  /-- What is wrong with all other texts is the number. -/
  invalidUlid_iff : (∃ fault, parse s = .error (.invalidUlid fault)) ↔
    (∃ digits, s = prefixed digits) ∧ ∀ id, parse s ≠ .ok id
  text_eq_iff : ∀ digits id, s = prefixed digits → parse s = .ok id →
    (id.text = s ↔ (∀ c ∈ digits, c.isLower = false) ∧ ∀ first ∈ digits.head?, first ≤ '7')

/-- Every text has this form, and identifiers are read back from their texts. -/
theorem textForm : (∀ s, TextForm s) ∧ ∀ id : RecordId, parse id.text = .ok id := by
  refine ⟨fun s => ⟨fun id => parse_eq_ok_iff, parse_eq_empty_iff, parse_eq_missingSeparator_iff,
    fun expected actual => parse_eq_wrongPrefix_iff, parse_eq_invalidUlid_iff,
    fun digits id split read => ?_⟩, parse_text⟩
  subst split
  cases parse_eq_iff.mp read with
  | read split whole spells =>
    cases prefixed_injective split
    rw [← digits_ofNat_eq_iff whole spells]
    exact ⟨prefixed_injective, congrArg prefixed⟩

example : parse "disk_8000000000000000000000000z" = .ok (.ofNat 31) := by rfl

example : (ofNat 31).text = "disk_0000000000000000000000000Z" := by decide +kernel

end RecordId

end VmDeploy
