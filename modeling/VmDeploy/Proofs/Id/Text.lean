import VmDeploy.Id.Cloud
import VmDeploy.Id.Record
import VmDeploy.Proofs.Result

/-!
# Texts of identifiers

The identifier of a record is read back from its text, so different identifiers have
different texts. A name that the cloud gave is its text.
-/

set_option autoImplicit false

namespace VmDeploy

/-- A name that is taken from a text has that text. -/
theorem CloudId.text_of_parse {kind : Resource} {s : String} {id : CloudId kind}
    (parsed : CloudId.parse s = .ok id) : id.text = s := by
  unfold CloudId.parse at parsed
  split at parsed
  · cases parsed
  · cases parsed
    rfl

/-- Different names have different texts. -/
theorem CloudId.text_injective {kind : Resource} {a b : CloudId kind} (h : a.text = b.text) :
    a = b := by
  cases a
  cases b
  simpa using h

namespace RecordId

/-- Every digit takes one byte. -/
theorem utf8Size_digit {n : Nat} (h : n < 32) : (Crockford.digit n).utf8Size = 1 := by
  have all : ∀ m : Fin 32, (Crockford.digit m).utf8Size = 1 := by decide
  exact all ⟨n, h⟩

theorem byteCount_append (s t : List Char) : byteCount (s ++ t) = byteCount s + byteCount t := by
  induction s with
  | nil => simp [byteCount]
  | cons c rest ih =>
    simp only [byteCount, List.cons_append, List.foldr_cons] at ih ⊢
    omega

/-- Digits take as many bytes as there are digits. -/
theorem byteCount_encode (count n : Nat) : byteCount (Crockford.encode count n) = count := by
  induction count generalizing n with
  | zero => rfl
  | succ count ih =>
    have last : byteCount [Crockford.digit (n % 32)] = 1 := by
      simp [byteCount, utf8Size_digit (Nat.mod_lt n (by decide))]
    rw [Crockford.encode, byteCount_append, ih, last]

/-- An identifier is read back from its text. -/
@[simp] theorem parse_text (id : RecordId) : parse id.text = .ok id := by
  have chars : id.text.toList = 'd' :: 'i' :: 's' :: 'k' :: '_' :: id.digits := by
    simp [text, kindPrefix]
  have nonempty : id.text.isEmpty = false := by
    rw [Bool.eq_false_iff]
    intro empty
    have : id.text = "" := String.isEmpty_iff.mp empty
    rw [this] at chars
    cases chars
  have split : splitSeparator id.text.toList = some ("disk".toList, id.digits) := by
    rw [chars]
    simp [splitSeparator]
  have digits : parseDigits id.digits = .ok id := by
    have length : byteCount id.digits = digitCount := byteCount_encode _ _
    obtain ⟨n, decoded, made⟩ := Option.map_eq_some_iff.mp id.ofNat_decode_digits
    simp only [parseDigits, length, ne_eq, not_true_eq_false, if_false, decoded, made]
  simp [parse, nonempty, split, kindPrefix, digits]

/-- Different identifiers have different texts. -/
theorem text_injective {a b : RecordId} (h : a.text = b.text) : a = b := by
  have := congrArg parse h
  simpa using this

end RecordId

end VmDeploy
