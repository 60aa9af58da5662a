/-!
# Text from bytes

Bytes that arrive from outside are read as UTF-8. Where the text only serves
a message, what is not UTF-8 is replaced: each longest beginning of a
character that cannot be completed becomes one replacement character, and so
does each byte that begins none.
-/

set_option autoImplicit false

namespace VmDeploy.Text.Utf8

/-- The bytes of a text. -/
def encode (s : String) : List UInt8 := s.toUTF8.toList

/-- Reads bytes as UTF-8; refuses bytes that are no text. -/
def decode? (bytes : List UInt8) : Option String := String.fromUTF8? ⟨bytes.toArray⟩

/-- Stands for bytes that are no text. -/
def replacement : Char := Char.ofNat 0xFFFD

/-- How the character that a byte begins goes on: how many bytes follow, the
payload bits of the first byte, and the range of the second byte. -/
def opening? (b : UInt8) : Option (Nat × Nat × Nat × Nat) :=
  let n := b.toNat
  if n < 0x80 then some (0, n, 0, 0)
  else if 0xC2 ≤ n ∧ n ≤ 0xDF then some (1, n % 0x20, 0x80, 0xBF)
  else if n = 0xE0 then some (2, n % 0x10, 0xA0, 0xBF)
  else if (0xE1 ≤ n ∧ n ≤ 0xEC) ∨ n = 0xEE ∨ n = 0xEF then some (2, n % 0x10, 0x80, 0xBF)
  else if n = 0xED then some (2, n % 0x10, 0x80, 0x9F)
  else if n = 0xF0 then some (3, n % 0x08, 0x90, 0xBF)
  else if 0xF1 ≤ n ∧ n ≤ 0xF3 then some (3, n % 0x08, 0x80, 0xBF)
  else if n = 0xF4 then some (3, n % 0x08, 0x80, 0x8F)
  else none

/-- Reads what follows a first byte: the character, or a replacement for the
part that could not be completed. `more` bytes are still due, the next one in
the range from `low` to `high`; the second part of the result is what remains
to be read. -/
def completion (more acc low high : Nat) (bytes : List UInt8) : Char × List UInt8 :=
  match more, bytes with
  | 0, rest => (Char.ofNat acc, rest)
  | _ + 1, [] => (replacement, [])
  | more + 1, b :: rest =>
    if low ≤ b.toNat ∧ b.toNat ≤ high then
      completion more (acc * 0x40 + b.toNat % 0x40) 0x80 0xBF rest
    else (replacement, b :: rest)

/-- Completing a character never reads backwards. -/
theorem length_completion_le (more acc low high : Nat) (bytes : List UInt8) :
    (completion more acc low high bytes).2.length ≤ bytes.length := by
  fun_induction completion more acc low high bytes with
  | case1 => simp
  | case2 => simp
  | case3 more acc low high b rest h ih => exact Nat.le_succ_of_le ih
  | case4 => simp

/-- Reads bytes as UTF-8 with a replacement for whatever is no text. -/
def decodeLossy (bytes : List UInt8) : List Char :=
  match bytes with
  | [] => []
  | b :: rest =>
    match opening? b with
    | none => replacement :: decodeLossy rest
    | some (more, acc, low, high) =>
      have : (completion more acc low high rest).2.length ≤ rest.length :=
        length_completion_le more acc low high rest
      (completion more acc low high rest).1 :: decodeLossy (completion more acc low high rest).2
  termination_by bytes.length

end VmDeploy.Text.Utf8
