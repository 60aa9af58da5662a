import Mathlib.Data.List.Forall2

/-!
# Results

How a computation that may fail is opened when it succeeded.
-/

set_option autoImplicit false

namespace VmDeploy.Result

variable {α β ε ε' : Type}

/-- A sequence succeeds if both of its parts do. -/
theorem bind_eq_ok {x : Except ε α} {f : α → Except ε β} {b : β} :
    x >>= f = .ok b ↔ ∃ a, x = .ok a ∧ f a = .ok b := by
  cases x with
  | error e => simp [bind, Except.bind]
  | ok a => simp [bind, Except.bind]

@[simp] theorem mapError_ok (f : ε → ε') (a : α) : (Except.ok a).mapError f = .ok a := rfl

/-- Other words for an error do not change success. -/
theorem mapError_eq_ok {f : ε → ε'} {x : Except ε α} {a : α} :
    x.mapError f = .ok a ↔ x = .ok a := by
  constructor
  · intro succeeded
    cases x with
    | error e => cases succeeded
    | ok b =>
      cases succeeded
      rfl
  · rintro rfl
    rfl

theorem map_eq_ok {f : α → β} {x : Except ε α} {b : β} :
    x.map f = .ok b ↔ ∃ a, x = .ok a ∧ f a = b := by
  cases x <;> simp [Except.map]

theorem eq_ok_of_isOk {x : Except ε α} (succeeded : x.isOk = true) : ∃ a, x = .ok a := by
  cases x with
  | ok a => exact ⟨a, rfl⟩
  | error _ => cases succeeded

theorem eq_error_of_isOk {x : Except ε α} (failed : x.isOk = false) : ∃ e, x = .error e := by
  cases x with
  | ok _ => cases failed
  | error e => exact ⟨e, rfl⟩

@[simp] theorem isOk_mapError (f : ε → ε') (x : Except ε α) :
    (x.mapError f).isOk = x.isOk := by
  cases x <;> rfl

/-- What a successful traversal yields comes from the elements of the list. -/
theorem mem_of_mapM_eq_ok {f : α → Except ε β} {xs : List α} {ys : List β} {y : β}
    (h : xs.mapM f = .ok ys) (mem : y ∈ ys) : ∃ x ∈ xs, f x = .ok y := by
  induction xs generalizing ys with
  | nil =>
    cases h
    cases mem
  | cons x xs ih =>
    rw [List.mapM_cons] at h
    obtain ⟨z, hz, tail⟩ := bind_eq_ok.mp h
    obtain ⟨zs, hzs, heq⟩ := bind_eq_ok.mp tail
    cases heq
    rcases List.mem_cons.mp mem with rfl | rest
    · exact ⟨x, List.mem_cons_self, hz⟩
    · obtain ⟨x', hx', read⟩ := ih hzs rest
      exact ⟨x', List.mem_cons_of_mem _ hx', read⟩

/-- A successful traversal yields one value for every element of the list, in its order. -/
theorem forall₂_of_mapM {f : α → Except ε β} {xs : List α} {ys : List β} (h : xs.mapM f = .ok ys) :
    List.Forall₂ (fun x y => f x = .ok y) xs ys := by
  induction xs generalizing ys with
  | nil =>
    cases h
    exact .nil
  | cons x xs ih =>
    rw [List.mapM_cons] at h
    obtain ⟨y, here, tail⟩ := bind_eq_ok.mp h
    obtain ⟨ys, later, heq⟩ := bind_eq_ok.mp tail
    cases heq
    exact .cons here (ih later)

/-- Two traversals one behind the other yield what both yield for every element. -/
theorem forall₂_of_mapM_mapM {γ : Type} {f : α → Except ε β} {g : β → Except ε γ} {xs : List α}
    {zs : List γ} (h : (xs.mapM f >>= fun ys => ys.mapM g) = .ok zs) :
    List.Forall₂ (fun x z => f x >>= g = .ok z) xs zs := by
  obtain ⟨ys, first, second⟩ := bind_eq_ok.mp h
  have firsts := forall₂_of_mapM first
  have seconds := forall₂_of_mapM second
  clear h first second
  induction firsts generalizing zs with
  | nil =>
    cases seconds
    exact .nil
  | cons first _ ih =>
    cases seconds with
    | cons second rest => exact .cons (bind_eq_ok.mpr ⟨_, first, second⟩) (ih rest)

/-- Two traversals one behind the other succeed if both do for every element. -/
theorem mapM_mapM_eq_ok {γ : Type} {f : α → Except ε β} {g : β → Except ε γ} {h : α → γ}
    {xs : List α} (each : ∀ x ∈ xs, f x >>= g = .ok (h x)) :
    (xs.mapM f >>= fun ys => ys.mapM g) = .ok (xs.map h) := by
  induction xs with
  | nil => rfl
  | cons x xs ih =>
    obtain ⟨y, first, second⟩ := bind_eq_ok.mp (each x List.mem_cons_self)
    obtain ⟨ys, firsts, seconds⟩ :=
      bind_eq_ok.mp (ih fun x' mem => each x' (List.mem_cons_of_mem x mem))
    have here : (x :: xs).mapM f = .ok (y :: ys) := by
      rw [List.mapM_cons, first, firsts]
      rfl
    have there : (y :: ys).mapM g = .ok (h x :: xs.map h) := by
      rw [List.mapM_cons, second, seconds]
      rfl
    rw [here]
    exact there

end VmDeploy.Result
