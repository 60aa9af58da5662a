import VmDeploy.Proofs.Json.Numerals
import VmDeploy.Proofs.Text.Hex

/-!
# Compact texts tell values apart

Where a value begins in a text, the text tells the value and where it ends: if a value and what
follows it are written as another value and what follows that, the two values and the two rests are
the same (`told`). So different values have different texts (`compact_injective`).

Of a number the end is seen only by what follows, which is the end of the text or a character that
no number has (`Stops`). All other values end in themselves. A string does because each character is
written in a way that is read back before the next begins (`unescape_escape`), and none is written
as the closing quote.

The order of entries is part of these texts; it is `normalize` that makes it the same.
-/

set_option autoImplicit false

namespace VmDeploy.Json

/-- What is shown of all members of arrays and objects is shown of all values. -/
@[elab_as_elim]
theorem induct {P : Json → Prop} (null : P .null) (bool : ∀ b, P (.bool b))
    (number : ∀ n, P (.number n)) (string : ∀ s, P (.string s))
    (array : ∀ items, (∀ x ∈ items, P x) → P (.array items))
    (object : ∀ fields, (∀ entry ∈ fields, P entry.2) → P (.object fields)) : ∀ x, P x :=
  @Json.rec P (fun items => ∀ x ∈ items, P x) (fun fields => ∀ entry ∈ fields, P entry.2)
    (fun entry => P entry.2) null bool number string array object
    nofun (fun _ _ here later => List.forall_mem_cons.mpr ⟨here, later⟩)
    nofun (fun _ _ here later => List.forall_mem_cons.mpr ⟨here, later⟩)
    fun _ _ value => value

/-! ## Strings -/

/-- The character that a letter behind a backslash stands for. -/
def unescapeLetter (c : Char) : Char :=
  if c = 'b' then '\x08'
  else if c = 't' then '\t'
  else if c = 'n' then '\n'
  else if c = 'f' then '\x0c'
  else if c = 'r' then '\r'
  else c

/-- The first character that a text spells, and what follows it. -/
def unescape : List Char → Option (Char × List Char)
  | '\\' :: 'u' :: '0' :: '0' :: high :: low :: rest => do
    let h ← Text.Hex.value? high
    let l ← Text.Hex.value? low
    return (Char.ofNat (16 * h + l), rest)
  | '\\' :: c :: rest => some (unescapeLetter c, rest)
  | c :: rest => some (c, rest)
  | [] => none

/-- A character is read back from the way in which it is written. -/
theorem unescape_escape (c : Char) (rest : List Char) :
    unescape (escape c ++ rest) = some (c, rest) := by
  unfold escape
  split_ifs with quote backslash _ _ _ _ _ control
  iterate 7
    subst c
    rfl
  · have split : 16 * (c.toNat / 16) + c.toNat % 16 = c.toNat := Nat.div_add_mod _ _
    simp [unescape, Text.Hex.value?_digit (show c.toNat / 16 < 16 by omega),
      Text.Hex.value?_digit (Nat.mod_lt c.toNat (by decide : 0 < 16)), split]
  · rw [List.singleton_append]
    unfold unescape
    split <;> simp_all

/-- No character is written as a quote is that closes a string. -/
theorem escape_ne_quote (c : Char) (rest s : List Char) : escape c ++ rest ≠ '"' :: s := by
  unfold escape
  split_ifs with quote <;> simp [quote]

/-- The characters of a string are told up to its closing quote. -/
theorem escapes_append_inj {cs ds r s : List Char}
    (same : cs.flatMap escape ++ '"' :: r = ds.flatMap escape ++ '"' :: s) : cs = ds ∧ r = s := by
  induction cs generalizing ds with
  | nil =>
    cases ds with
    | nil => exact ⟨rfl, (List.cons.inj same).2⟩
    | cons d ds =>
      rw [List.flatMap_cons, List.append_assoc] at same
      exact absurd same.symm (escape_ne_quote d _ r)
  | cons c cs ih =>
    cases ds with
    | nil =>
      rw [List.flatMap_cons, List.append_assoc] at same
      exact absurd same (escape_ne_quote c _ s)
    | cons d ds =>
      rw [List.flatMap_cons, List.flatMap_cons, List.append_assoc, List.append_assoc] at same
      have first := congrArg unescape same
      rw [unescape_escape, unescape_escape] at first
      obtain ⟨rfl, later⟩ := Prod.mk.inj (Option.some.inj first)
      obtain ⟨rfl, rest⟩ := ih later
      exact ⟨rfl, rest⟩

theorem quoted_append_inj {a b : String} {r s : List Char}
    (same : quoted a ++ r = quoted b ++ s) : a = b ∧ r = s := by
  simp only [quoted, List.cons_append, List.append_assoc, List.nil_append,
    List.cons.injEq, true_and] at same
  obtain ⟨chars, rest⟩ := escapes_append_inj same
  exact ⟨String.toList_injective chars, rest⟩

/-! ## Kinds of values -/

/-- The kinds of values, each of which begins in a way of its own. -/
inductive Kind where
  | null
  | bool
  | number
  | string
  | array
  | object

/-- The kind of a value. -/
def kind : Json → Kind
  | .null => .null
  | .bool _ => .bool
  | .number _ => .number
  | .string _ => .string
  | .array _ => .array
  | .object _ => .object

/-- The kind of value that a character begins, if it begins one. -/
def kindBegunBy (c : Char) : Option Kind :=
  if c = 'n' then some .null
  else if c = 't' ∨ c = 'f' then some .bool
  else if c = '"' then some .string
  else if c = '[' then some .array
  else if c = '\x7b' then some .object
  else if isNumeric c then some .number
  else none

theorem kindBegunBy_of_isNumeric {c : Char} (numeric : isNumeric c = true) :
    kindBegunBy c = some .number := by
  have other {d : Char} (notNumeric : isNumeric d = false) : c ≠ d := by
    rintro rfl
    rw [numeric] at notNumeric
    cases notNumeric
  simp [kindBegunBy, numeric, other (d := 'n') rfl, other (d := 't') rfl, other (d := 'f') rfl,
    other (d := '"') rfl, other (d := '[') rfl, other (d := '\x7b') rfl]

/-- The first character of a text shows the kind of the value. -/
theorem exists_write_eq_cons (x : Json) :
    ∃ c rest, write x = c :: rest ∧ kindBegunBy c = some (kind x) := by
  cases x with
  | null | string _ | array _ | object _ => exact ⟨_, _, rfl, rfl⟩
  | bool b => cases b <;> exact ⟨_, _, rfl, rfl⟩
  | number n =>
    obtain ⟨c, rest, text⟩ := List.exists_cons_of_ne_nil (numberText_ne_nil n)
    have numeric := isNumeric_of_mem_numberText c (text ▸ List.mem_cons_self)
    exact ⟨c, rest, text, kindBegunBy_of_isNumeric numeric⟩

theorem kind_eq_of_append {x y : Json} {r s : List Char} (same : write x ++ r = write y ++ s) :
    kind x = kind y := by
  obtain ⟨c, rest, textX, kindX⟩ := exists_write_eq_cons x
  obtain ⟨d, rest', textY, kindY⟩ := exists_write_eq_cons y
  rw [textX, textY] at same
  rw [(List.cons.inj same).1, kindY] at kindX
  exact (Option.some.inj kindX).symm

/-- No value begins with a character that begins none. -/
theorem write_append_ne {c : Char} (none : kindBegunBy c = none) (x : Json) (r s : List Char) :
    write x ++ r ≠ c :: s := by
  obtain ⟨d, rest, text, kind⟩ := exists_write_eq_cons x
  rw [text]
  intro same
  rw [(List.cons.inj same).1, none] at kind
  cases kind

/-! ## Values -/

/-- What follows a value: nothing, or a character that no number has. -/
def Stops (text : List Char) : Prop := ∀ c ∈ text.head?, isNumeric c = false

theorem stops_nil : Stops [] := nofun

theorem stops_cons {c : Char} (rest : List Char) (notNumeric : isNumeric c = false) :
    Stops (c :: rest) := by
  rintro d ⟨⟩
  exact notNumeric

/-- A text that starts with a value tells it, and what follows it. -/
def Told (x : Json) : Prop :=
  ∀ (y : Json) {r s : List Char}, Stops r → Stops s → write x ++ r = write y ++ s → x = y ∧ r = s

theorem told_number (n : JsonNumber) : Told (.number n) := by
  intro y r s stopsR stopsS same
  have cut {m : JsonNumber} {t : List Char} (stops : Stops t) :
      (numberText m ++ t).takeWhile isNumeric = numberText m ∧
        (numberText m ++ t).dropWhile isNumeric = t := by
    rw [List.takeWhile_append_of_pos isNumeric_of_mem_numberText,
      List.dropWhile_append_of_pos isNumeric_of_mem_numberText]
    cases t with
    | nil => simp
    | cons c rest => simp [stops c rfl]
  cases y with
  | number m =>
    rw [write, write] at same
    have value : n = m := numberText_injective (by rw [← (cut stopsR).1, same, (cut stopsS).1])
    exact ⟨congrArg _ value, by rw [← (cut stopsR).2, same, (cut stopsS).2]⟩
  | _ => cases kind_eq_of_append same

theorem stops_writeItems (xs : List Json) (r : List Char) :
    Stops (writeItems false xs ++ ']' :: r) := by
  cases xs <;> exact stops_cons _ rfl

theorem stops_writeFields (fields : List (String × Json)) (r : List Char) :
    Stops (writeFields false fields ++ '\x7d' :: r) := by
  cases fields <;> exact stops_cons _ rfl

/-- The items of an array are told one after the other up to the closing bracket. -/
theorem writeItems_append_inj {xs ys : List Json} {first : Bool} {r s : List Char}
    (told : ∀ x ∈ xs, Told x)
    (same : writeItems first xs ++ ']' :: r = writeItems first ys ++ ']' :: s) :
    xs = ys ∧ r = s := by
  induction xs generalizing ys first with
  | nil =>
    cases ys with
    | nil => exact ⟨rfl, (List.cons.inj same).2⟩
    | cons y ys =>
      cases first
      · cases (List.cons.inj same).1
      · simp only [writeItems, if_true, List.nil_append, List.append_assoc] at same
        exact absurd same.symm (write_append_ne rfl y _ _)
  | cons x xs ih =>
    cases ys with
    | nil =>
      cases first
      · cases (List.cons.inj same).1
      · simp only [writeItems, if_true, List.nil_append, List.append_assoc] at same
        exact absurd same (write_append_ne rfl x _ _)
    | cons y ys =>
      simp only [writeItems, List.append_assoc, List.append_cancel_left_eq] at same
      obtain ⟨rfl, later⟩ := told x List.mem_cons_self y (stops_writeItems xs r)
        (stops_writeItems ys s) same
      obtain ⟨rfl, rest⟩ := ih (fun x mem => told x (List.mem_cons_of_mem _ mem)) later
      exact ⟨rfl, rest⟩

/-- The entries of an object are told one after the other up to the closing brace. -/
theorem writeFields_append_inj {fs gs : List (String × Json)} {first : Bool} {r s : List Char}
    (told : ∀ entry ∈ fs, Told entry.2)
    (same : writeFields first fs ++ '\x7d' :: r = writeFields first gs ++ '\x7d' :: s) :
    fs = gs ∧ r = s := by
  induction fs generalizing gs first with
  | nil =>
    cases gs with
    | nil => exact ⟨rfl, (List.cons.inj same).2⟩
    | cons g gs => cases first <;> cases (List.cons.inj same).1
  | cons f fs ih =>
    obtain ⟨key, x⟩ := f
    cases gs with
    | nil => cases first <;> cases (List.cons.inj same).1
    | cons g gs =>
      obtain ⟨key', y⟩ := g
      simp only [writeFields, List.append_assoc, List.append_cancel_left_eq] at same
      obtain ⟨rfl, behindKey⟩ := quoted_append_inj same
      have value := (List.cons.inj behindKey).2
      obtain ⟨rfl, later⟩ := told _ List.mem_cons_self y (stops_writeFields fs r)
        (stops_writeFields gs s) value
      obtain ⟨rfl, rest⟩ := ih (fun entry mem => told entry (List.mem_cons_of_mem _ mem)) later
      exact ⟨rfl, rest⟩

/-- The text of a value, whatever may follow it, tells the value. -/
theorem told (x : Json) : Told x := by
  induction x using induct with
  | null =>
    intro y r s _ _ same
    cases y with
    | null => exact ⟨rfl, List.append_cancel_left same⟩
    | _ => cases kind_eq_of_append same
  | bool b =>
    intro y r s _ _ same
    cases y with
    | bool c =>
      cases b <;> cases c
      · exact ⟨rfl, List.append_cancel_left same⟩
      · cases (List.cons.inj same).1
      · cases (List.cons.inj same).1
      · exact ⟨rfl, List.append_cancel_left same⟩
    | _ => cases kind_eq_of_append same
  | number n => exact told_number n
  | string a =>
    intro y r s _ _ same
    cases y with
    | string b => exact (quoted_append_inj same).imp_left (congrArg _)
    | _ => cases kind_eq_of_append same
  | array xs ih =>
    intro y r s _ _ same
    cases y with
    | array ys =>
      simp only [write, List.cons_append, List.append_assoc, List.cons.injEq, true_and,
        List.nil_append] at same
      exact (writeItems_append_inj ih same).imp_left (congrArg _)
    | _ => cases kind_eq_of_append same
  | object fs ih =>
    intro y r s _ _ same
    cases y with
    | object gs =>
      simp only [write, List.cons_append, List.append_assoc, List.cons.injEq, true_and,
        List.nil_append] at same
      exact (writeFields_append_inj ih same).imp_left (congrArg _)
    | _ => cases kind_eq_of_append same

/-- Different values have different texts. -/
theorem compact_injective {x y : Json} (same : x.compact = y.compact) : x = y := by
  have chars : write x ++ [] = write y ++ [] := by
    rw [List.append_nil, List.append_nil]
    exact String.ofList_injective same
  exact (told x y stops_nil stops_nil chars).1

end VmDeploy.Json
