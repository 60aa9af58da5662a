import VmDeploy.Domain.Name

/-!
# Characters of names in ASCII

What a name is written with in ASCII (`toAscii_isPlain`): characters of ASCII that no URL gives a
meaning of its own. Those of the name were looked through, and those that stand for other characters
are letters and digits.
-/

set_option autoImplicit false

namespace VmDeploy.Domain

/-- A character of ASCII that a name may have. -/
def isPlain (c : Char) : Bool := isAscii c && !isForbidden c

namespace Punycode

theorem isPlain_digit {v : Nat} (below : v < base) : isPlain (digit v) = true := by
  have all : ∀ d : Fin 36, isPlain (digit d) = true := by decide
  exact all ⟨v, below⟩

theorem isPlain_writeNumber (bias place n : Nat) :
    ∀ c ∈ writeNumber bias place n, isPlain c = true := by
  fun_induction writeNumber bias place n with
  | case1 place n t below =>
    have bounds := threshold_bounds place bias
    exact List.forall_mem_singleton.mpr (isPlain_digit (by unfold base; omega))
  | case2 place n t large ih =>
    have bounds := threshold_bounds place bias
    have rest : (n - t) % (base - t) < base - t := Nat.mod_lt _ (by unfold base; omega)
    exact List.forall_mem_cons.mpr ⟨isPlain_digit (by omega), ih⟩

/-- Numbers are put behind those that are written already. -/
theorem isPlain_pass {number ascii : Nat} {p : Progress} {c : Char}
    (each : ∀ c ∈ p.written, isPlain c = true) :
    ∀ d ∈ (pass number ascii p c).written, isPlain d = true := by
  unfold pass
  split
  · exact each
  · split
    · exact List.forall_mem_append.mpr ⟨each, isPlain_writeNumber _ _ _⟩
    · exact each

theorem isPlain_passAll {number ascii : Nat} (label : List Char) {p : Progress}
    (each : ∀ c ∈ p.written, isPlain c = true) :
    ∀ c ∈ (label.foldl (pass number ascii) p).written, isPlain c = true := by
  induction label generalizing p with
  | nil => exact each
  | cons c rest ih => exact ih (isPlain_pass each)

theorem isPlain_writeAll {label : List Char} {ascii : Nat} (numbers : List Nat) (reached : Nat)
    {p : Progress} (each : ∀ c ∈ p.written, isPlain c = true) :
    ∀ c ∈ writeAll label ascii numbers reached p, isPlain c = true := by
  induction numbers generalizing reached p with
  | nil => exact each
  | cons number rest ih => exact ih _ (isPlain_passAll label each)

theorem isPlain_encode {label : List Char} (allowed : ∀ c ∈ label, isForbidden c = false) :
    ∀ c ∈ encode label, isPlain c = true := by
  refine List.forall_mem_append.mpr ⟨List.forall_mem_append.mpr ⟨?_, ?_⟩, ?_⟩
  · intro c mem
    obtain ⟨inside, ascii⟩ := List.mem_filter.mp mem
    rw [isPlain, allowed c inside]
    exact (Bool.and_true _).trans ascii
  · split
    · exact nofun
    · exact List.forall_mem_singleton.mpr (by decide)
  · exact isPlain_writeAll _ _ nofun

end Punycode

variable {s name label : List Char} {c : Char}

/-- The characters of labels are those of the name. -/
theorem mem_of_mem_labels (isLabel : label ∈ labels s) (mem : c ∈ label) : c ∈ s := by
  induction s generalizing label with
  | nil => simp_all [labels]
  | cons d rest ih =>
    unfold labels at isLabel
    split at isLabel
    · rcases List.mem_cons.mp isLabel with rfl | later
      · cases mem
      · exact List.mem_cons_of_mem _ (ih later mem)
    · split at isLabel
      · cases List.mem_singleton.mp isLabel
        rw [List.mem_singleton.mp mem]
        exact List.mem_cons_self
      · rename_i first others split
        rcases List.mem_cons.mp isLabel with rfl | later
        · rcases List.mem_cons.mp mem with rfl | inFirst
          · exact List.mem_cons_self
          · exact List.mem_cons_of_mem _ (ih (split ▸ List.mem_cons_self) inFirst)
        · exact List.mem_cons_of_mem _ (ih (split ▸ List.mem_cons_of_mem _ later) mem)

theorem isPlain_asciiLabel (allowed : ∀ c ∈ label, isForbidden c = false)
    (written : asciiLabel? label = some s) : ∀ c ∈ s, isPlain c = true := by
  unfold asciiLabel? at written
  split at written
  · rename_i ascii
    cases written
    intro c mem
    rw [isPlain, allowed c mem, List.all_eq_true.mp ascii c mem]
    rfl
  · split at written
    · cases written
    · cases written
      exact List.forall_mem_append.mpr
        ⟨List.all_eq_true.mp (by decide), Punycode.isPlain_encode allowed⟩

/-- What is picked from the elements of a list one by one comes from one of them. -/
theorem exists_of_mem_mapM {α β : Type} {f : α → Option β} {xs : List α} {ys : List β} {y : β}
    (mapped : xs.mapM f = some ys) (mem : y ∈ ys) : ∃ x ∈ xs, f x = some y := by
  induction xs generalizing ys with
  | nil =>
    cases mapped
    cases mem
  | cons x xs ih =>
    rw [List.mapM_cons] at mapped
    obtain ⟨z, here, mapped⟩ := Option.bind_eq_some_iff.mp mapped
    obtain ⟨zs, later, mapped⟩ := Option.bind_eq_some_iff.mp mapped
    cases mapped
    rcases List.mem_cons.mp mem with rfl | rest
    · exact ⟨x, List.mem_cons_self, here⟩
    · obtain ⟨x', inside, there⟩ := ih later rest
      exact ⟨x', List.mem_cons_of_mem _ inside, there⟩

theorem forall_mem_intercalate {α : Type} {P : α → Prop} {separator : List α}
    {parts : List (List α)}
    (between : ∀ a ∈ separator, P a) (each : ∀ part ∈ parts, ∀ a ∈ part, P a) :
    ∀ a ∈ List.intercalate separator parts, P a := by
  induction parts with
  | nil => exact nofun
  | cons first rest ih =>
    obtain ⟨here, later⟩ := List.forall_mem_cons.mp each
    cases rest with
    | nil => simpa [List.intercalate] using here
    | cons second rest =>
      have split : List.intercalate separator (first :: second :: rest)
          = first ++ separator ++ List.intercalate separator (second :: rest) := by
        simp [List.intercalate]
      rw [split]
      exact List.forall_mem_append.mpr ⟨List.forall_mem_append.mpr ⟨here, between⟩, ih later⟩

/-- A name in ASCII is made of characters that no URL gives a meaning of its own. -/
theorem toAscii_isPlain (written : toAscii name = some s) : ∀ c ∈ s, isPlain c = true := by
  unfold toAscii at written
  obtain ⟨forms, -, written⟩ := Option.bind_eq_some_iff.mp written
  dsimp only at written
  split at written
  · cases written
  · rename_i allowed
    obtain ⟨meant, -, written⟩ := Option.bind_eq_some_iff.mp written
    split at written
    · obtain ⟨parts, mapped, written⟩ := Option.bind_eq_some_iff.mp written
      cases written
      refine forall_mem_intercalate (List.forall_mem_singleton.mpr (by decide)) fun part mem => ?_
      obtain ⟨label, isLabel, ascii⟩ := exists_of_mem_mapM mapped mem
      refine isPlain_asciiLabel (fun c inside => ?_) ascii
      exact Bool.eq_false_iff.mpr fun forbidden =>
        allowed (List.any_eq_true.mpr ⟨c, mem_of_mem_labels isLabel inside, forbidden⟩)
    · cases written

end VmDeploy.Domain
