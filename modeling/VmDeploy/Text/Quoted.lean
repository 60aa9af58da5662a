import VmDeploy.Text.Hex
import VmDeploy.Text.Unseen

/-!
# Quoted text

Diagnostic texts show a string between double quotes. A quote and a backslash
get a backslash in front, four control characters have a letter of their own,
and every other character that cannot be seen on its own is spelled out by its
number, as in `\u{200b}`.
-/

set_option autoImplicit false

namespace VmDeploy.Text.Quoted

/-- How one character stands between the quotes. -/
def escape (c : Char) : List Char :=
  if c = '\x00' then ['\\', '0']
  else if c = '\t' then ['\\', 't']
  else if c = '\r' then ['\\', 'r']
  else if c = '\n' then ['\\', 'n']
  else if c = '\\' then ['\\', '\\']
  else if c = '"' then ['\\', '"']
  else if isUnseen c then ['\\', 'u', '\x7b'] ++ Hex.ofNat c.toNat ++ ['\x7d']
  else [c]

/-- A string between quotes. -/
def quote (s : String) : String :=
  String.ofList (['"'] ++ s.toList.flatMap escape ++ ['"'])

end VmDeploy.Text.Quoted
