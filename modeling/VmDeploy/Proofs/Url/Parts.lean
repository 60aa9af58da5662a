import Mathlib.Data.List.TakeWhile
import VmDeploy.Proofs.Text.Decimal
import VmDeploy.Proofs.Url.Encoding
import VmDeploy.Proofs.Url.Host

/-!
# URLs are read as they are put together

A URL of the web is put together from a scheme, credentials, a host, a port and a path
(`Url.Place`). What is read from its text are these parts again (`Url.parse_text`): the credentials
and the path as they are read, and whatever the host is read as, if it is one. A port is left out
that is the default of the scheme.
-/

set_option autoImplicit false

namespace VmDeploy.Url

variable {c : Char} {s front server host path user password : List Char} {port : Option UInt16}
  {n : Nat} {p : Char → Bool}

/-- A text is cut where a condition ends. -/
theorem cut_append (each : ∀ c ∈ front, p c = true) (stops : ∀ c ∈ s.head?, p c = false) :
    (front ++ s).takeWhile p = front ∧ (front ++ s).dropWhile p = s := by
  rw [List.takeWhile_append_of_pos each, List.dropWhile_append_of_pos each]
  cases s with
  | nil => exact ⟨List.append_nil _, rfl⟩
  | cons c rest => simp [stops c rfl]

/-! ## Authorities -/

theorem splitCredentials_eq_none (none : '@' ∉ s) : splitCredentials s = Option.none := by
  have each : ∀ c ∈ s.reverse, decide (c ≠ '@') = true :=
    fun c mem => decide_eq_true fun same => none (same ▸ List.mem_reverse.mp mem)
  have whole := (cut_append (s := []) each nofun).1
  rw [List.append_nil] at whole
  rw [splitCredentials, whole, List.reverse_reverse]
  exact if_pos rfl

/-- Credentials stand in front of the last at-sign. -/
theorem splitCredentials_append (none : '@' ∉ server) :
    splitCredentials (front ++ '@' :: server) = some (front, server) := by
  have each : ∀ c ∈ server.reverse, decide (c ≠ '@') = true :=
    fun c mem => decide_eq_true fun same => none (same ▸ List.mem_reverse.mp mem)
  have behind := (cut_append (s := '@' :: front.reverse) each (by simp)).1
  have reversed : (front ++ '@' :: server).reverse = server.reverse ++ '@' :: front.reverse := by
    simp
  have length : (front ++ '@' :: server).length = front.length + 1 + server.length := by
    simp only [List.length_append, List.length_cons]
    omega
  rw [splitCredentials, reversed, behind, List.reverse_reverse, length]
  rw [if_neg (by omega), show front.length + 1 + server.length - server.length - 1 = front.length by
    omega, List.take_left]

theorem percentEncode_credentials (each : ∀ c ∈ s, isLiteral c = true) :
    percentEncode credentialSet s = s := by
  refine percentEncode_eq_self fun c mem => ?_
  have here := each c mem
  simp only [isLiteral, Bool.and_eq_true, decide_eq_true_eq, Bool.not_eq_true'] at here
  exact ⟨Nat.le_of_lt here.1.1, here.1.2, here.2⟩

/-- Credentials are read as they are written. -/
theorem credentials_append (isUser : ∀ c ∈ user, isLiteral c = true)
    (isPassword : ∀ c ∈ password, isLiteral c = true) :
    credentials (user ++ ':' :: password)
      = (user, if password.isEmpty then none else some password) := by
  have each : ∀ c ∈ user, decide (c ≠ ':') = true := by
    refine fun c mem => decide_eq_true ?_
    rintro rfl
    cases isUser _ mem
  obtain ⟨before, behind⟩ := cut_append (s := ':' :: password) each (by simp)
  rw [credentials, before, behind, List.drop_one, List.tail_cons,
    percentEncode_credentials isUser, percentEncode_credentials isPassword]

theorem splitHost_cons {inBrackets inside : Bool} (held : c = ':' → inBrackets = true)
    (isInside : (if c = '[' then true else if c = ']' then false else inBrackets) = inside) :
    splitHost inBrackets (c :: s) = (c :: (splitHost inside s).1, (splitHost inside s).2) := by
  subst isInside
  exact if_neg fun ends => ends.2 (held ends.1)

/-- Brackets hold their colons together. -/
theorem splitHost_inside (each : ∀ c ∈ host, isInner c = true ∨ c = ':') :
    splitHost true (host ++ ']' :: s)
      = (host ++ ']' :: (splitHost false s).1, (splitHost false s).2) := by
  induction host with
  | nil => rfl
  | cons c rest ih =>
    obtain ⟨first, others⟩ := List.forall_mem_cons.mp each
    have noBracket : c ≠ '[' ∧ c ≠ ']' := by
      constructor <;> rintro rfl <;> exact absurd first (by decide)
    rw [List.cons_append, splitHost_cons (fun _ => rfl)
      ((if_neg noBracket.1).trans (if_neg noBracket.2)), ih others]
    rfl

/-- A host ends where its port begins. -/
theorem splitHost_append (isHost : IsHost host) (behind : s = [] ∨ ∃ digits, s = ':' :: digits) :
    splitHost false (host ++ s) = (host, s) := by
  have stop : splitHost false s = ([], s) := by
    rcases behind with rfl | ⟨digits, rfl⟩ <;> rfl
  cases isHost with
  | name some each =>
    clear some
    induction host with
    | nil => exact stop
    | cons c rest ih =>
      obtain ⟨first, others⟩ := List.forall_mem_cons.mp each
      have noMark : c ≠ ':' ∧ c ≠ '[' ∧ c ≠ ']' := by
        refine ⟨?_, ?_, ?_⟩ <;> rintro rfl <;> cases first
      rw [List.cons_append, splitHost_cons (fun colon => absurd colon noMark.1)
        ((if_neg noMark.2.1).trans (if_neg noMark.2.2)), ih others]
  | @address inside each =>
    have whole : '[' :: inside ++ [']'] ++ s = '[' :: (inside ++ ']' :: s) := by simp
    rw [whole, splitHost_cons (fun colon => absurd colon (by decide)) (if_pos rfl),
      splitHost_inside each, stop]
    rfl

/-! ## Ports and paths -/

/-- A port behind its host. -/
def portText (port : Option UInt16) : List Char :=
  (port.map fun port => ':' :: (toString port.toNat).toList).getD []

theorem isDigit_of_mem_toString : ∀ c ∈ (toString n).toList, c.isDigit = true := by
  intro c mem
  rw [Nat.toString_eq_ofList_toDigits, String.toList_ofList] at mem
  exact Nat.isDigit_of_mem_toDigits (by decide) (by decide) mem

/-- A port is read as it is written, unless it is the default. -/
theorem port?_toString (below : n < 65536) :
    port? s (toString n).toList = .ok (if defaultPort? s = some n then none else some n) := by
  have digits : (toString n).toList = Nat.toDigits 10 n := by
    rw [Nat.toString_eq_ofList_toDigits, String.toList_ofList]
  have some : (toString n).toList.isEmpty = false := by
    rw [digits, List.isEmpty_eq_false_iff]
    exact Nat.toDigits_ne_nil
  have read : Text.Decimal.readDigits 65536 0 (toString n).toList = .ok n := by
    refine (Text.Decimal.readDigits_eq_ok_iff (by decide)).mpr
      ⟨isDigit_of_mem_toString, ?_, below⟩
    rw [digits, Nat.ofDigitChars_ten_toDigits]
  simp only [port?, some, read, Bool.false_eq_true, if_false]

theorem splitTail_eq_self (each : ∀ c ∈ s, c ≠ '?' ∧ c ≠ '#') :
    splitTail s = (s, none, none) := by
  have noFragment := (cut_append (s := []) (fun c mem => decide_eq_true (each c mem).2) nofun).1
  have noQuery := (cut_append (s := []) (fun c mem => decide_eq_true (each c mem).1) nofun).1
  rw [List.append_nil] at noFragment noQuery
  simp only [splitTail, noFragment, noQuery, if_true]

/-! ## Whole URLs -/

/-- A place in the web. -/
structure Place where
  /-- Whether it is asked in secret. -/
  secure : Bool
  host : List Char
  isHost : IsHost host
  port : Option UInt16
  path : List Char
  isPath : ∀ c ∈ path, 0x20 < c.toNat ∧ c ≠ '?' ∧ c ≠ '#'
  rooted : ∀ c ∈ path.head?, c = '/'

namespace Place

variable (a : Place)

def scheme : List Char := if a.secure then "https".toList else "http".toList

/-- The port, unless it is the default. -/
def keptPort : Option UInt16 := a.port.filter fun port => defaultPort? a.scheme ≠ some port.toNat

/-- What stands behind the slashes of the scheme. -/
def behindSlashes (userinfo : List Char) : List Char :=
  userinfo ++ (a.host ++ portText a.port) ++ a.path

/-- A place with credentials in front of its host. -/
def text (userinfo : List Char) : String :=
  String.ofList (a.scheme ++ "://".toList ++ a.behindSlashes userinfo)

/-- The URL of a place. -/
def url (user : List Char) (password : Option (List Char)) (host : List Char) : Url where
  scheme := a.scheme
  username := user
  password := password
  host := some host
  port := a.keptPort.map UInt16.toNat
  path := absolutePath true a.path

end Place

/-- What stands in front of a host, and the user and the password in it. -/
inductive IsUserinfo : List Char → List Char → Option (List Char) → Prop
  | none : IsUserinfo [] [] .none
  | some {user password : List Char} (isSome : user ≠ [])
      (isUser : ∀ c ∈ user, isLiteral c = true) (isPassword : ∀ c ∈ password, isLiteral c = true) :
      IsUserinfo (user ++ ':' :: password ++ ['@']) user
        (if password.isEmpty then .none else .some password)

/-- A character that stands in an authority, behind its credentials. -/
def InServer (c : Char) : Prop := 0x20 < c.toNat ∧ endsAuthority true c = false ∧ c ≠ '@'

theorem inServer_of_isInner (inner : isInner c = true) : InServer c := by
  have noMark : ∀ mark ∈ "/\\?#@".toList, c ≠ mark := by
    rintro mark isMark rfl
    have none : "/\\?#@".toList.any isInner = false := by decide
    exact List.any_eq_false.mp none c isMark inner
  simp only [isInner, Bool.and_eq_true, decide_eq_true_eq] at inner
  refine ⟨inner.1, ?_, noMark '@' (by decide)⟩
  simp [endsAuthority, isSlash, noMark '/' (by decide), noMark '\\' (by decide),
    noMark '?' (by decide), noMark '#' (by decide)]

theorem inServer_of_isHost (isHost : IsHost s) : ∀ c ∈ s, InServer c := by
  have marks : InServer ':' ∧ InServer '[' ∧ InServer ']' := by
    unfold InServer
    decide
  cases isHost with
  | name _ each => exact fun c mem => inServer_of_isInner (each c mem)
  | address each =>
    refine List.forall_mem_append.mpr ⟨List.forall_mem_cons.mpr ⟨marks.2.1, fun c mem => ?_⟩,
      List.forall_mem_singleton.mpr marks.2.2⟩
    rcases each c mem with inner | rfl
    · exact inServer_of_isInner inner
    · exact marks.1

theorem inServer_portText : ∀ c ∈ portText port, InServer c := by
  cases port with
  | none => exact List.forall_mem_nil _
  | some n =>
    refine List.forall_mem_cons.mpr ⟨by unfold InServer; decide, fun c mem => ?_⟩
    exact inServer_of_isInner (isInner_of_isDigit (isDigit_of_mem_toString c mem))

theorem isLiteral_inAuthority (literal : isLiteral c = true) :
    0x20 < c.toNat ∧ endsAuthority true c = false := by
  have all : ∀ k : Fin 128, isLiteral (Char.ofNat k) = true →
      0x20 < (Char.ofNat k).toNat ∧ endsAuthority true (Char.ofNat k) = false := by decide +kernel
  have ascii : c.toNat < 128 := by
    simp only [isLiteral, Bool.and_eq_true, decide_eq_true_eq] at literal
    omega
  obtain ⟨k, rfl⟩ := Text.exists_ascii ascii
  exact all k literal

theorem IsUserinfo.inAuthority {userinfo : List Char} {password : Option (List Char)}
    (given : IsUserinfo userinfo user password) :
    ∀ c ∈ userinfo, 0x20 < c.toNat ∧ endsAuthority true c = false := by
  cases given with
  | none => exact List.forall_mem_nil _
  | some _ isUser isPassword =>
    refine List.forall_mem_append.mpr ⟨List.forall_mem_append.mpr
      ⟨fun c mem => isLiteral_inAuthority (isUser c mem), List.forall_mem_cons.mpr
        ⟨by decide, fun c mem => isLiteral_inAuthority (isPassword c mem)⟩⟩,
      List.forall_mem_singleton.mpr (by decide)⟩

namespace Place

variable (a : Place)

theorem isKnown_scheme : isKnown a.scheme = true := by
  unfold scheme
  cases a.secure <;> decide

end Place

theorem IsHost.isEmpty (isHost : IsHost host) : host.isEmpty = false := by
  cases isHost with
  | name some _ => exact List.isEmpty_eq_false_iff.mpr some
  | address _ => rfl

/-- The digits of a port, and nothing, stand behind its colon. -/
theorem port?_portText (a : Place) :
    let digits := ((portText a.port).drop 1).takeWhile fun c => decide (c ≠ '\\')
    port? a.scheme digits = .ok (a.keptPort.map UInt16.toNat) ∧
      (portText a.port).drop (digits.length + 1) = [] := by
  unfold Place.keptPort
  cases a.port with
  | none => exact ⟨rfl, rfl⟩
  | some port =>
    have noSlash : ∀ c ∈ (toString port.toNat).toList, decide (c ≠ '\\') = true := by
      refine fun c mem => decide_eq_true ?_
      rintro rfl
      cases isDigit_of_mem_toString _ mem
    have digits := (cut_append (s := []) noSlash nofun).1
    rw [List.append_nil] at digits
    simp only [portText, Option.map_some, Option.getD_some, List.drop_succ_cons, List.drop_zero,
      digits, port?_toString port.toNat_lt, List.drop_length, and_true]
    by_cases isDefault : defaultPort? a.scheme = some port.toNat <;>
      simp [Option.filter, isDefault]

/-- Behind credentials a place is read as its host, its port and its path. -/
theorem behindCredentials_place (a : Place) (user : List Char) (password : Option (List Char)) :
    behindCredentials a.scheme user password (a.host ++ portText a.port) a.path
      = (readHost a.host).map (a.url user password) := by
  have split : splitHost false (a.host ++ portText a.port) = (a.host, portText a.port) := by
    refine splitHost_append a.isHost ?_
    cases a.port with
    | none => exact .inl rfl
    | some n => exact .inr ⟨_, rfl⟩
  have tail : splitTail a.path = (a.path, none, none) :=
    splitTail_eq_self fun c mem => (a.isPath c mem).2
  obtain ⟨port, behind⟩ := port?_portText a
  unfold behindCredentials
  simp only [a.isKnown_scheme, split, a.isHost.isEmpty, port, behind, tail, List.nil_append]
  cases read : readHost a.host with
  | error e => rfl
  | ok host =>
    have some := (isHost_of_readHost a.isHost read).isEmpty
    simp only [bind, Except.bind, some]
    rfl

section

variable (a : Place) {userinfo : List Char} {given : Option (List Char)}

theorem inServer_place : ∀ c ∈ a.host ++ portText a.port, InServer c :=
  List.forall_mem_append.mpr ⟨inServer_of_isHost a.isHost, inServer_portText⟩

theorem inAuthority_place (isUserinfo : IsUserinfo userinfo user given) :
    ∀ c ∈ userinfo ++ (a.host ++ portText a.port), 0x20 < c.toNat ∧ endsAuthority true c = false :=
  List.forall_mem_append.mpr ⟨isUserinfo.inAuthority, fun c mem =>
    ⟨(inServer_place a c mem).1, (inServer_place a c mem).2.1⟩⟩

/-- Behind the slashes a place is read as its credentials, its host, its port and its path. -/
theorem behindSlashes_place (isUserinfo : IsUserinfo userinfo user given) :
    behindSlashes a.scheme (a.behindSlashes userinfo)
      = (readHost a.host).map (a.url user given) := by
  have noAt : '@' ∉ a.host ++ portText a.port := fun mem => (inServer_place a _ mem).2.2 rfl
  have authority : (a.behindSlashes userinfo).takeWhile (fun c => !endsAuthority true c)
      = userinfo ++ (a.host ++ portText a.port) := by
    refine (cut_append (fun c mem => ?_) fun c first => ?_).1
    · rw [(inAuthority_place a isUserinfo c mem).2]
      rfl
    · rw [a.rooted c first]
      rfl
  have rest : (a.behindSlashes userinfo).drop (userinfo ++ (a.host ++ portText a.port)).length
      = a.path := List.drop_left
  unfold behindSlashes
  simp only [a.isKnown_scheme, authority, rest]
  cases isUserinfo with
  | none =>
    rw [List.nil_append, splitCredentials_eq_none noAt]
    exact behindCredentials_place a [] none
  | @some user password isSome isUser isPassword =>
    rw [List.append_assoc, List.singleton_append, splitCredentials_append noAt]
    simp only [credentials_append isUser isPassword, behindCredentials_place]
    exact if_neg (by simp)

end

theorem cleaned_eq_self (visible : ∀ c ∈ s, 0x20 < c.toNat) : cleaned s = s := by
  have noSpace (l : List Char) (each : ∀ c ∈ l, 0x20 < c.toNat) :
      l.dropWhile (fun c => decide (c.toNat ≤ 0x20)) = l := by
    cases l with
    | nil => rfl
    | cons c rest => simp [Nat.not_le.mpr (each c List.mem_cons_self)]
  have noBreak : ∀ c ∈ s, decide (c ≠ '\t' ∧ c ≠ '\n' ∧ c ≠ '\r') = true := by
    intro c mem
    refine decide_eq_true ⟨?_, ?_, ?_⟩ <;> rintro rfl <;> exact absurd (visible _ mem) (by decide)
  rw [cleaned, noSpace s visible,
    noSpace s.reverse fun c mem => visible c (List.mem_reverse.mp mem),
    List.reverse_reverse, List.filter_eq_self.mpr noBreak]

theorem splitScheme_place (a : Place) :
    splitScheme (a.scheme ++ "://".toList ++ s) = some (a.scheme, '/' :: '/' :: s) := by
  unfold Place.scheme
  cases a.secure <;> rfl

/-- A place is read as it is put together, if its host is one. -/
theorem parse_text (a : Place) {userinfo : List Char} {given : Option (List Char)}
    (isUserinfo : IsUserinfo userinfo user given) :
    parse (a.text userinfo) = (readHost a.host).map (a.url user given) := by
  have inAuthority := inAuthority_place a isUserinfo
  have visible : ∀ c ∈ a.scheme ++ "://".toList ++ a.behindSlashes userinfo, 0x20 < c.toNat := by
    refine List.forall_mem_append.mpr ⟨?_, List.forall_mem_append.mpr
      ⟨fun c mem => (inAuthority c mem).1, fun c mem => (a.isPath c mem).1⟩⟩
    unfold Place.scheme
    cases a.secure <;> exact Text.forall_mem_of_all (by decide)
  have slashes : ('/' :: '/' :: a.behindSlashes userinfo).dropWhile (isSlash true)
      = a.behindSlashes userinfo := by
    have twice : ∀ c ∈ ['/', '/'], isSlash true c = true := List.all_eq_true.mp (by decide)
    refine (cut_append twice fun c first => ?_).2
    have mem : c ∈ userinfo ++ (a.host ++ portText a.port) := by
      obtain ⟨d, rest, host⟩ := List.exists_cons_of_ne_nil
        (List.isEmpty_eq_false_iff.mp a.isHost.isEmpty)
      cases userinfo <;> simp_all [Place.behindSlashes]
    have here := (inAuthority c mem).2
    simp only [endsAuthority, Bool.or_eq_false_iff] at here
    exact here.1.1
  rw [parse, Place.text, String.toList_ofList, cleaned_eq_self visible, splitScheme_place]
  simp only [a.isKnown_scheme, if_true, slashes, behindSlashes_place a isUserinfo]

end VmDeploy.Url
