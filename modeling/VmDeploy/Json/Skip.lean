import VmDeploy.Json.Reader

/-!
# Passing over JSON text

The value of a key that nobody asked for is passed over, not read: its
brackets, commas and quotes have to match, but its numbers may be of any size,
its strings may spell half a surrogate pair, and there is no limit to its
depth.

The two functions for lists and objects call each other through `skipValue`;
every second call takes a byte, so twice the length of the text bounds them.
-/

set_option autoImplicit false

namespace VmDeploy.Json.Reader

/-- Passes over a string behind its first quote. -/
def skipString : (fuel : Nat) → Reader Unit
  | 0 => fail .endInString
  | fuel + 1 => do
    match ← get with
    | [] => fail .endInString
    | b :: rest =>
      let c := Char.ofNat b.toNat
      if c = '"' then set rest
      else if c = '\\' then do
        set rest
        match ← next with
        | none => fail .endInString
        | some 'u' => let _ ← hexEscape
        | some e =>
          if ['"', '\\', '/', 'b', 'f', 'n', 'r', 't'].contains e then pure ()
          else fail .invalidEscape
        skipString fuel
      else if b.toNat < 0x20 then fail .controlCharacter
      else do
        set rest
        skipString fuel

/-- Passes over an exponent behind its letter. -/
def skipExponent : Reader Unit := do
  match ← peek with
  | some '+' | some '-' => skip
  | _ => pure ()
  match ← digits with
  | [] => fail .invalidNumber
  | _ => pure ()

/-- Passes over an exponent, if one follows. -/
def skipExponentOrEnd : Reader Unit := do
  match ← peek with
  | some 'e' | some 'E' => skip; skipExponent
  | _ => pure ()

/-- Passes over a number behind its sign. -/
def skipNumber : Reader Unit := do
  match ← digits with
  | [] => fail .invalidNumber
  | 0 :: _ :: _ => fail .invalidNumber
  | _ => pure ()
  match ← peek with
  | some '.' =>
    skip
    match ← digits with
    | [] => fail .invalidNumber
    | _ => skipExponentOrEnd
  | _ => skipExponentOrEnd

/-- Passes over a string that begins with the next byte, as the key of an object. -/
def skipKey : Reader Unit := do
  match ← peekToken with
  | none => fail .endInObject
  | some '"' =>
    skip
    skipString ((← get).length + 1)
    colon
  | some _ => fail .keyNotString

mutual

/-- Passes over a value. -/
def skipValue : (fuel : Nat) → Reader Unit
  | 0 => fail .endInValue
  | fuel + 1 => do
    match ← peekToken with
    | none => fail .endInValue
    | some 'n' => skip; word ['u', 'l', 'l']
    | some 't' => skip; word ['r', 'u', 'e']
    | some 'f' => skip; word ['a', 'l', 's', 'e']
    | some '-' => skip; skipNumber
    | some '"' => skip; skipString ((← get).length + 1)
    | some '[' => skip; skipItems fuel true
    | some '\x7b' => skip; skipEntries fuel true
    | some c => if (digit? c).isSome then skipNumber else fail .expectedValue

/-- Passes over the items of a list and its end. -/
def skipItems : (fuel : Nat) → (first : Bool) → Reader Unit
  | 0, _ => fail .endInList
  | fuel + 1, first => do
    match ← peekToken with
    | none => fail .endInList
    | some ']' => skip
    | some c =>
      if first then do
        skipValue fuel
        skipItems fuel false
      else if c = ',' then do
        skip
        skipValue fuel
        skipItems fuel false
      else fail .expectedListEnd

/-- Passes over the entries of an object and its end. -/
def skipEntries : (fuel : Nat) → (first : Bool) → Reader Unit
  | 0, _ => fail .endInObject
  | fuel + 1, first => do
    match ← peekToken with
    | none => fail .endInObject
    | some '\x7d' => skip
    | some c =>
      if first then do
        skipKey
        skipValue fuel
        skipEntries fuel false
      else if c = ',' then do
        skip
        skipKey
        skipValue fuel
        skipEntries fuel false
      else fail .expectedObjectEnd

end

/-- Passes over the value that follows. -/
def ignore : Reader Unit := do skipValue (2 * (← get).length + 2)

end VmDeploy.Json.Reader
