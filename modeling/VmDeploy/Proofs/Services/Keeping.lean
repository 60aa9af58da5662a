import VmDeploy.Proofs.Services.Calls

/-!
# What actions keep

An action keeps an account of the calls made so far, of the state, and of the handles on disks
that are known, if the account holds again behind every run, with the handles that the result
yields (`Keeps`). Handles only add up, as an account never has to hold of handles that are
not used any more.

There is one law for each way to build an action. What an account needs for all of them is
little (`Account`).
-/

set_option autoImplicit false

namespace VmDeploy

/-- Every run of an action from an account leads to an account. A result yields handles. -/
def Keeps {σ α : Type} (env : Environment services σ)
    (P : List (Exchange σ) → σ → List Disk → Prop) (known : List Disk) (x : Action α)
    (yields : α → List Disk) : Prop :=
  ∀ ⦃past s calls r s'⦄, P past s known → Performs env x.run s calls r s' →
    P (past ++ calls) s' known ∧ ∀ a, r = .ok a → P (past ++ calls) s' (known ++ yields a)

/-- What an account has to allow for: questions that are no calls change nothing, and handles may
be forgotten. -/
structure Account {σ : Type} (env : Environment services σ)
    (P : List (Exchange σ) → σ → List Disk → Prop) : Prop where
  quiet : env.Quiet
  subset : ∀ {past s known known'}, P past s known → known' ⊆ known → P past s known'

namespace Keeps

variable {σ α β : Type} {env : Environment services σ}
  {P : List (Exchange σ) → σ → List Disk → Prop} {known : List Disk}

theorem pure (account : Account env P) {a : α} {yields : α → List Disk}
    (old : yields a ⊆ known) : Keeps env P known (Pure.pure a) yields := by
  intro past s calls r s' holds run
  obtain ⟨rfl, rfl, rfl⟩ := Performs.run_pure_iff.mp run
  rw [List.append_nil]
  refine ⟨holds, ?_⟩
  intro b heq
  cases heq
  exact account.subset holds (List.append_subset.mpr ⟨List.Subset.refl known, old⟩)

theorem bind (account : Account env P) {x : Action α} {f : α → Action β}
    {first : α → List Disk} {second : β → List Disk} (here : Keeps env P known x first)
    (later : ∀ a, Keeps env P (known ++ first a) (f a) second) :
    Keeps env P known (x >>= f) second := by
  intro past s calls r s' holds run
  rcases Performs.run_bind_iff.mp run with ⟨e, rfl, ran⟩ | ⟨a, s₁, cs₁, cs₂, rfl, ran, rest⟩
  · refine ⟨(here holds ran).1, ?_⟩
    intro b failed
    cases failed
  · have middle := (here holds ran).2 a rfl
    obtain ⟨kept, yielded⟩ := later a middle rest
    rw [← List.append_assoc]
    refine ⟨account.subset kept (List.subset_append_left _ _), ?_⟩
    intro b ended
    refine account.subset (yielded b ended) ?_
    exact List.append_subset.mpr ⟨List.Subset.trans (List.subset_append_left _ _)
      (List.subset_append_left _ _), List.subset_append_right _ _⟩

/-- Fewer handles may be yielded, or some that were known. -/
theorem weaken (account : Account env P) {x : Action α} {yields yields' : α → List Disk}
    (here : Keeps env P known x yields) (fewer : ∀ a, yields' a ⊆ known ++ yields a) :
    Keeps env P known x yields' := by
  intro past s calls r s' holds run
  refine ⟨(here holds run).1, ?_⟩
  intro a ended
  refine account.subset ((here holds run).2 a ended) ?_
  exact List.append_subset.mpr ⟨List.subset_append_left _ _, fewer a⟩

/-- What is no call keeps every account. -/
theorem lift_quiet (account : Account env P) {q : ServiceQuestion} (silent : q.isCall = false) :
    Keeps env P known (ExceptT.lift (Program.question (I := services) q)) fun _ => [] := by
  intro past s calls r s' holds run
  obtain ⟨a, rfl, asked⟩ := Performs.run_lift_iff.mp run
  obtain ⟨rfl, rfl⟩ := (Performs.quiet_iff account.quiet silent).mp asked
  rw [List.append_nil]
  refine ⟨holds, ?_⟩
  intro _ _
  rwa [List.append_nil]

theorem inContext {message : String} {x : Action α} {yields : α → List Disk}
    (here : Keeps env P known x yields) :
    Keeps env P known (Action.inContext message x) yields := by
  intro past s calls r s' holds run
  obtain ⟨r₀, rfl, ran⟩ := Performs.run_inContext_iff.mp run
  refine ⟨(here holds ran).1, ?_⟩
  intro a ended
  exact (here holds ran).2 a (Result.mapError_eq_ok.mp ended)

theorem step (account : Account env P) {name : String} {x : Action α} {yields : α → List Disk}
    (here : Keeps env P known x yields) : Keeps env P known (Action.step name x) yields :=
  fun _ _ _ _ _ holds run => here holds ((Performs.run_step_iff account.quiet).mp run)

theorem deletionStep (account : Account env P) {name : String} {type : CloudErrorType}
    {x : Action Unit} (here : Keeps env P known x fun _ => []) :
    Keeps env P known (Action.deletionStep name type x) fun _ => [] := by
  intro past s calls r s' holds run
  obtain ⟨r₀, rfl, ran⟩ := (Performs.run_deletionStep_iff account.quiet).mp run
  have kept := (here holds ran).1
  refine ⟨kept, ?_⟩
  intro _ _
  rwa [List.append_nil]

theorem forM (account : Account env P) {ds : List α} {f : α → Action Unit}
    (each : ∀ d ∈ ds, Keeps env P known (f d) fun _ => []) :
    Keeps env P known (ds.forM f) fun _ => [] := by
  induction ds with
  | nil => exact pure account (by simp)
  | cons d ds ih =>
    show Keeps env P known (f d >>= fun _ => ds.forM f) fun _ => []
    refine bind account (each d List.mem_cons_self) ?_
    intro _
    rw [List.append_nil]
    exact ih fun d' mem => each d' (List.mem_cons_of_mem _ mem)

/-- What one action yields for each of many things they yield together. -/
theorem mapM (account : Account env P) {xs : List α} {f : α → Action Disk}
    (each : ∀ x known, Keeps env P known (f x) fun d => [d]) :
    Keeps env P known (xs.mapM f) id := by
  induction xs generalizing known with
  | nil => exact pure account (by simp)
  | cons x xs ih =>
    rw [List.mapM_cons]
    refine bind account (each x known) ?_
    intro d
    refine bind account ih ?_
    intro ds
    exact pure account (by simp)

end Keeps

end VmDeploy
