import VmDeploy.Url.Host

/-!
# URLs

Reading and writing of URLs as the web does it. A text is read part by part:
scheme, credentials, host, port, path, query and fragment. Characters that a
part cannot hold are written as a percent sign and two digits; percent signs
that are there already are left alone, also in credentials.

Of a path, segments of one dot go away, and segments of two dots take the
segment before along unless it is a drive.
-/

set_option autoImplicit false

namespace VmDeploy

/-- A URL. Without a host, the path is everything behind the scheme. -/
structure Url where
  scheme : List Char
  username : List Char := []
  password : Option (List Char) := none
  host : Option (List Char) := none
  port : Option Nat := none
  path : List Char := []
  query : Option (List Char) := none
  fragment : Option (List Char) := none
  deriving DecidableEq, Repr

namespace Url

/-- The port that a scheme has when none is written; the schemes that have one are the
known ones. -/
def defaultPort? (scheme : List Char) : Option Nat :=
  match String.ofList scheme with
  | "http" | "ws" => some 80
  | "https" | "wss" => some 443
  | "ftp" => some 21
  | _ => none

/-- Whether a scheme is known to have an authority. -/
def isKnown (scheme : List Char) : Bool := (defaultPort? scheme).isSome

/-- A byte as a percent sign and two digits. -/
def percentByte (b : UInt8) : List Char :=
  ['%', (Text.Hex.digit (b.toNat / 16)).toUpper, (Text.Hex.digit (b.toNat % 16)).toUpper]

/-- Writes the characters that are control characters, not ASCII or in a set by number. -/
def percentEncode (set : List Char) (s : List Char) : List Char :=
  s.flatMap fun c =>
    if c.toNat < 0x20 ∨ 0x7f ≤ c.toNat ∨ set.contains c then
      (Text.Utf8.encode (String.singleton c)).flatMap percentByte
    else [c]

/-- What fragments cannot hold. -/
def fragmentSet : List Char := " \"<>`".toList

/-- What paths cannot hold. -/
def pathSet : List Char := fragmentSet ++ "#?\x7b\x7d".toList

/-- What credentials cannot hold. -/
def credentialSet : List Char := pathSet ++ "/:;=@[\\]^|".toList

/-- What queries cannot hold. -/
def querySet (known : Bool) : List Char :=
  " \"#<>".toList ++ if known then ['\''] else []

/-- Whether a character separates the segments of a path. -/
def isSlash (known : Bool) (c : Char) : Bool := c = '/' || (known && c = '\\')

/-- Whether a character ends the authority. -/
def endsAuthority (known : Bool) (c : Char) : Bool := isSlash known c || c = '?' || c = '#'

/-- Credentials in front of the last at-sign of an authority, and the rest of the
authority. -/
def splitCredentials (authority : List Char) : Option (List Char × List Char) :=
  let behind := (authority.reverse.takeWhile (· ≠ '@')).reverse
  if behind.length = authority.length then none
  else some (authority.take (authority.length - behind.length - 1), behind)

/-- The credentials of a text: user and, behind the first colon, password, which is none
if nothing is there. -/
def credentials (s : List Char) : List Char × Option (List Char) :=
  let user := s.takeWhile (· ≠ ':')
  let password := (s.dropWhile (· ≠ ':')).drop 1
  (percentEncode credentialSet user,
    if password.isEmpty then none else some (percentEncode credentialSet password))

/-- The end of the host in an authority: the first colon outside brackets. -/
def splitHost (inBrackets : Bool) : List Char → List Char × List Char
  | [] => ([], [])
  | c :: rest =>
    if c = ':' ∧ ¬ inBrackets then ([], c :: rest)
    else
      let inside := if c = '[' then true else if c = ']' then false else inBrackets
      let (host, behind) := splitHost inside rest
      (c :: host, behind)

/-- Reads a port, of which the default of the scheme is left out. -/
def port? (scheme digits : List Char) : Except UrlError (Option Nat) :=
  if digits.isEmpty then .ok none
  else
    match Text.Decimal.readDigits 65536 0 digits with
    | .error _ => .error .invalidPort
    | .ok n => .ok (if defaultPort? scheme = some n then none else some n)

/-- Whether a segment is one dot, which may be written by number. -/
def isDot (segment : List Char) : Bool :=
  let s := String.ofList (segment.map Char.toLower)
  s = "." || s = "%2e"

/-- Whether a segment is two dots. -/
def isTwoDots (segment : List Char) : Bool :=
  let s := String.ofList (segment.map Char.toLower)
  s = ".." || s = ".%2e" || s = "%2e." || s = "%2e%2e"

/-- Whether a segment is the letter of a drive. -/
def isDrive : List Char → Bool
  | [letter, mark] => letter.isAlpha && (mark = ':' || mark = '|')
  | _ => false

/-- Takes away the last of the segments read so far, which stand in reverse, unless it is a
drive. -/
def goUp : List (List Char) → List (List Char)
  | [] => []
  | last :: read => if isDrive last then last :: read else read

/-- Puts segments behind those read so far, which stand in reverse. -/
def resolve (read : List (List Char)) : List (List Char) → List (List Char)
  | [] => read.reverse
  | [last] =>
    if isTwoDots last then ([] :: goUp read).reverse
    else if isDot last then ([] :: read).reverse
    else (last :: read).reverse
  | segment :: rest =>
    if isTwoDots segment then resolve (goUp read) rest
    else if isDot segment then resolve read rest
    else resolve (segment :: read) rest

/-- The segments of a path behind its first slash. -/
def segments (known : Bool) (s : List Char) : List (List Char) :=
  splitAt '/' (s.map fun c => if isSlash known c then '/' else c)

/-- Reads the path behind an authority. -/
def absolutePath (known : Bool) (s : List Char) : List Char :=
  let behind := match s with
    | [] => []
    | c :: rest => if isSlash known c then rest else c :: rest
  (resolve [] ((segments known behind).map (percentEncode pathSet))).flatMap ('/' :: ·)

/-- Fragment, query and what stands before them. -/
def splitTail (s : List Char) : List Char × Option (List Char) × Option (List Char) :=
  let front := s.takeWhile (· ≠ '#')
  let fragment := if front.length = s.length then none else some (s.drop (front.length + 1))
  let path := front.takeWhile (· ≠ '?')
  let query := if path.length = front.length then none else some (front.drop (path.length + 1))
  (path, query, fragment)

/-- Reads a host and what stands behind it, when the credentials in front of it were read;
`rest` is what stands behind the authority. -/
def behindCredentials (scheme username : List Char) (password : Option (List Char))
    (server rest : List Char) : Except UrlError Url := do
  let known := isKnown scheme
  let (name, behindHost) := splitHost false server
  if known ∧ name.isEmpty then throw .emptyHost
  let host ← if known then readHost name else readUnknownHost name
  if host.isEmpty ∧ ¬ behindHost.isEmpty then throw .emptyHost
  let digits := (behindHost.drop 1).takeWhile (· ≠ '\\')
  let port ← port? scheme digits
  if host.isEmpty ∧ ¬ (username.isEmpty ∧ password.isNone) then throw .emptyHost
  let (path, query, fragment) := splitTail (behindHost.drop (digits.length + 1) ++ rest)
  return {
    scheme, username, password, port
    host := some host
    path := if known ∨ ¬ path.isEmpty then absolutePath known path else []
    query := query.map (percentEncode (querySet known))
    fragment := fragment.map (percentEncode fragmentSet) }

/-- Reads what stands behind the two slashes of an authority. -/
def behindSlashes (scheme s : List Char) : Except UrlError Url :=
  let authority := s.takeWhile fun c => !endsAuthority (isKnown scheme) c
  let rest := s.drop authority.length
  match splitCredentials authority with
  | none => behindCredentials scheme [] none authority rest
  | some (front, server) =>
    if front.isEmpty ∧ server.isEmpty ∧ ¬ rest.isEmpty then .error .emptyHost
    else behindCredentials scheme (credentials front).1 (credentials front).2 server rest

/-- Reads what stands behind the scheme of files. Such a URL has a host only behind two slashes,
and a drive there is none. -/
def file (scheme s : List Char) : Except UrlError Url := do
  let name := (s.drop 2).takeWhile fun c => !endsAuthority true c
  let hasHost := (s.take 2).map (isSlash true) = [true, true] && !name.isEmpty && !isDrive name
  let host ← if hasHost then some <$> readHost name else pure none
  return { scheme, host, path := if hasHost then s.drop (2 + name.length) else s }

/-- Reads what stands behind a scheme that is not known, without two slashes. -/
def withoutAuthority (scheme s : List Char) : Url :=
  let (path, query, fragment) := splitTail s
  { scheme
    path := if path.head? = some '/' then absolutePath false path else percentEncode [] path
    query := query.map (percentEncode (querySet false))
    fragment := fragment.map (percentEncode fragmentSet) }

/-- Whether a character may stand in a scheme behind its first letter. -/
def inScheme (c : Char) : Bool := c.isAlphanum || c = '+' || c = '-' || c = '.'

/-- The scheme in front of a text, in lower case, and what stands behind its colon. -/
def splitScheme (s : List Char) : Option (List Char × List Char) :=
  match s with
  | [] => none
  | c :: _ =>
    if c.isAlpha then
      let scheme := s.takeWhile inScheme
      match s.drop scheme.length with
      | ':' :: rest => some (scheme.map Char.toLower, rest)
      | _ => none
    else none

/-- The text without blanks at its ends and without line breaks and tabs. -/
def cleaned (s : List Char) : List Char :=
  let isSpace (c : Char) : Bool := c.toNat ≤ 0x20
  let trimmed := ((s.dropWhile isSpace).reverse.dropWhile isSpace).reverse
  trimmed.filter fun c => c ≠ '\t' ∧ c ≠ '\n' ∧ c ≠ '\r'

/-- Reads a URL. -/
def parse (text : String) : Except UrlError Url :=
  match splitScheme (cleaned text.toList) with
  | none => .error .relativeWithoutBase
  | some (scheme, rest) =>
    if isKnown scheme then behindSlashes scheme (rest.dropWhile (isSlash true))
    else if scheme = "file".toList then file scheme rest
    else
      match rest with
      | '/' :: '/' :: behind => behindSlashes scheme behind
      | _ => .ok (withoutAuthority scheme rest)

/-- The text of a URL. -/
def text (u : Url) : String :=
  let authority : List Char :=
    match u.host with
    | none => []
    | some host =>
      let userinfo :=
        if u.username.isEmpty ∧ u.password.isNone then []
        else u.username ++ (u.password.map (':' :: ·)).getD [] ++ ['@']
      let port := (u.port.map fun n => ':' :: (toString n).toList).getD []
      "//".toList ++ userinfo ++ host ++ port
  String.ofList (u.scheme ++ ':' :: authority ++ u.path
    ++ (u.query.map ('?' :: ·)).getD [] ++ (u.fragment.map ('#' :: ·)).getD [])

/-- Path and query, which a request names. -/
def target (u : Url) : String :=
  String.ofList (u.path ++ (u.query.map ('?' :: ·)).getD [])

/-- Whether credentials may be set: there is a host with a name, and no file is meant. -/
def takesCredentials (u : Url) : Bool :=
  match u.host with
  | none | some [] => false
  | some _ => u.scheme ≠ "file".toList

/-- The URL without its credentials. -/
def withoutCredentials (u : Url) : Url := { u with username := [], password := none }

end Url

end VmDeploy
