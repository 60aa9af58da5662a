import VmDeploy.Proofs.Domain.Name
import VmDeploy.Proofs.Text.Ascii
import VmDeploy.Url.Host

/-!
# Hosts are read as hosts

What stands in the place of a host is a name or something in brackets (`Url.IsHost`), without the
characters that separate the parts of a URL. What it is read as is of that form again
(`Url.isHost_of_readHost`), so a URL with it is split into the same parts.
-/

set_option autoImplicit false

namespace VmDeploy.Url

/-- A character that separates no parts of a URL. -/
def isInner (c : Char) : Bool := 0x20 < c.toNat && !"#/:?@[\\]".toList.contains c

/-- A text has the form of a host. -/
inductive IsHost : List Char → Prop
  | name {s : List Char} (some : s ≠ []) (each : ∀ c ∈ s, isInner c = true) : IsHost s
  | address {s : List Char} (each : ∀ c ∈ s, isInner c = true ∨ c = ':') :
      IsHost ('[' :: s ++ [']'])

variable {s host : List Char} {c : Char}

theorem isInner_of_isPlain (plain : Domain.isPlain c = true) : isInner c = true := by
  have all : ∀ k : Fin 128,
      Domain.isPlain (Char.ofNat k) = true → isInner (Char.ofNat k) = true := by
    decide +kernel
  have ascii : c.toNat < 128 := by
    simp only [Domain.isPlain, Domain.isAscii, Bool.and_eq_true, decide_eq_true_eq] at plain
    exact plain.1
  obtain ⟨k, rfl⟩ := Text.exists_ascii ascii
  exact all k plain

theorem isInner_of_isDigit (digit : c.isDigit = true) : isInner c = true := by
  have all : ∀ k : Fin 128, (Char.ofNat k).isDigit = true → isInner (Char.ofNat k) = true := by
    decide
  obtain ⟨k, rfl⟩ := Text.exists_ascii (Text.ascii_of_isDigit digit)
  exact all k digit

theorem isInner_of_mem_toDigits {n : Nat} (mem : c ∈ Nat.toDigits 16 n) : isInner c = true := by
  have digits : ∀ d : Fin 16, isInner (Nat.digitChar d) = true := by decide
  -- Along the quotients by the base: what remains below it is the last digit.
  induction n using Nat.strongRecOn with
  | ind n ih =>
    rcases Nat.lt_or_ge n 16 with below | large
    · rw [Nat.toDigits_of_lt_base below, List.mem_singleton] at mem
      exact mem ▸ digits ⟨n, below⟩
    · rw [Nat.toDigits_of_base_le (by decide) large, List.mem_append, List.mem_singleton] at mem
      rcases mem with front | rfl
      · exact ih (n / 16) (by omega) front
      · exact digits ⟨n % 16, Nat.mod_lt n (by decide)⟩

/-- A character of an address in brackets is a digit or a colon. -/
theorem inner_or_colon_of_mem_writeGroups {groups : List Nat} (mem : c ∈ writeGroups groups) :
    isInner c = true ∨ c = ':' := by
  have colon : ∀ c ∈ [':'], isInner c = true ∨ c = ':' := by simp
  refine Domain.forall_mem_intercalate colon (fun part inside d digit => ?_) c mem
  obtain ⟨n, -, rfl⟩ := List.mem_map.mp inside
  exact .inl (isInner_of_mem_toDigits digit)

theorem inner_or_colon_of_mem_writeIpv6 {groups : List Nat} (mem : c ∈ writeIpv6 groups) :
    isInner c = true ∨ c = ':' := by
  unfold writeIpv6 at mem
  dsimp only at mem
  split at mem
  · exact inner_or_colon_of_mem_writeGroups mem
  · rcases List.mem_append.mp mem with front | back
    · rcases List.mem_append.mp front with before | run
      · exact inner_or_colon_of_mem_writeGroups before
      · exact .inr (by simpa using run)
    · exact inner_or_colon_of_mem_writeGroups back

example :
    (ipv6? "2001:0DB8:0:0:1:0:0:1".toList).map writeIpv6 = some "2001:db8::1:0:0:1".toList ∧
      (ipv6? "::FFFF:192.0.2.1".toList).map writeIpv6 = some "::ffff:c000:201".toList ∧
      (ipv6? "1::2:3:4:5:6:7".toList).map writeIpv6 = some "1:0:2:3:4:5:6:7".toList ∧
      ipv6? "1:2:3:4:5:6::192.0.2.1".toList = none := by
  decide +kernel

/-- An address consists of digits and points. -/
theorem isHost_of_ipv4 {name : List Char} (read : ipv4 name = .ok host) : IsHost host := by
  unfold ipv4 at read
  dsimp only at read
  split at read
  · cases read
  · split at read
    · cases read
    · cases read
      refine .name ?_ ?_
      · simp [List.intercalate]
      · have dot : ∀ c ∈ ['.'], isInner c = true := List.forall_mem_singleton.mpr (by decide)
        refine Domain.forall_mem_intercalate dot fun part mem => ?_
        obtain ⟨n, -, rfl⟩ := List.mem_map.mp mem
        intro c inside
        rw [Nat.toString_eq_ofList_toDigits, String.toList_ofList] at inside
        exact isInner_of_isDigit (Nat.isDigit_of_mem_toDigits (by decide) (by decide) inside)

/-- An address in brackets is written in brackets. -/
theorem isHost_of_bracketed (read : bracketed s = .ok host) : IsHost host := by
  unfold bracketed at read
  split at read
  · split at read
    · cases read
      exact .address fun c mem => inner_or_colon_of_mem_writeIpv6 mem
    · cases read
  · cases read

/-- A host is read as something of the form of a host. -/
theorem isHost_of_readHost (isHost : IsHost s) (read : readHost s = .ok host) : IsHost host := by
  unfold readHost at read
  cases isHost with
  | address _ =>
    rw [List.cons_append, List.head?_cons, if_pos rfl] at read
    exact isHost_of_bracketed read
  | name some each =>
    have unbracketed : s.head? ≠ Option.some '[' := by
      intro bracket
      have inner := each '[' (List.mem_of_head? bracket)
      exact absurd inner (by decide)
    rw [if_neg unbracketed] at read
    dsimp only at read
    split at read
    · cases read
    · rename_i name decoded
      obtain ⟨text, -, ascii⟩ := Option.bind_eq_some_iff.mp decoded
      have plain := Domain.toAscii_isPlain ascii
      split at read
      · cases read
      · rename_i nonempty
        split at read
        · exact isHost_of_ipv4 read
        · cases read
          exact .name (fun none => nonempty (none ▸ rfl)) fun c mem =>
            isInner_of_isPlain (plain c mem)

end VmDeploy.Url
