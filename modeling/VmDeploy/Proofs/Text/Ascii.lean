import VmDeploy.Proofs.Text.Utf8

/-!
# Characters of ASCII

There are few of them, so what holds of all can be looked up (`exists_ascii`), and so can what holds
of the characters of a text that is given (`forall_mem_of_all`). Each is one byte.
-/

set_option autoImplicit false

namespace VmDeploy.Text

variable {c : Char} {s : List Char}

/-- A character of ASCII is one of a hundred and twenty-eight. -/
theorem exists_ascii (ascii : c.toNat < 128) : ∃ k : Fin 128, c = Char.ofNat k :=
  ⟨⟨c.toNat, ascii⟩, (Char.ofNat_toNat c).symm⟩

theorem forall_mem_of_all {P : Char → Prop} [DecidablePred P]
    (all : s.all (fun c => decide (P c)) = true) : ∀ c ∈ s, P c :=
  fun c mem => of_decide_eq_true (List.all_eq_true.mp all c mem)

theorem ascii_of_isDigit (digit : c.isDigit = true) : c.toNat < 128 := by
  simp only [Char.isDigit, Bool.and_eq_true, decide_eq_true_eq] at digit
  exact Nat.lt_of_le_of_lt (UInt32.le_iff_toNat_le.mp digit.2) (by decide)

/-- A character of ASCII is one byte. -/
theorem Utf8.encodeChar_of_ascii (ascii : c.toNat < 128) :
    String.utf8EncodeChar c = [UInt8.ofNat c.toNat] := by
  have small : c.toNat ≤ 127 := Nat.le_of_lt_succ ascii
  simp [String.utf8EncodeChar, small]

theorem Utf8.encode_of_ascii (ascii : ∀ c ∈ s, c.toNat < 128) :
    encode (String.ofList s) = s.map fun c => UInt8.ofNat c.toNat := by
  rw [encode_ofList]
  induction s with
  | nil => rfl
  | cons c rest ih =>
    obtain ⟨first, others⟩ := List.forall_mem_cons.mp ascii
    rw [List.flatMap_cons, encodeChar_of_ascii first, ih others]
    rfl

end VmDeploy.Text
