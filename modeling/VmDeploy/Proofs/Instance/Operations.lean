import VmDeploy.Instance.Basic
import VmDeploy.Proofs.Services.Actions

/-!
# Operations on instances

The runs of an operation that may move its instance. An operation that enters a state of the
lifecycle does nothing at all where the lifecycle does not allow it (`runs_enter_iff`). One
that works and then leaves for another state has moved on exactly if the work succeeded
(`runs_leave_iff`).
-/

set_option autoImplicit false

namespace VmDeploy

/-- The instance in another state of its lifecycle. -/
def Instance.movedTo (i : Instance) (next : Lifecycle) : Instance := { i with lifecycle := next }

namespace Instance

variable {i : Instance} {next : Lifecycle}

@[simp] theorem vm_movedTo : (i.movedTo next).vm = i.vm := rfl

/-- An instance may be shut down unless it was deleted. -/
theorem canShutDown (alive : i.lifecycle ≠ .deleted) :
    i.lifecycle.canMoveTo .shuttingDown = true := by
  generalize i.lifecycle = lifecycle at alive ⊢
  cases lifecycle with
  | deleted => exact absurd rfl alive
  | _ => rfl

/-- Of a sequence of actions each leaves the instance alone. -/
theorem act_bind {α β : Type} (x : Action α) (f : α → Action β) :
    act (x >>= f) = act x >>= fun a => act (f a) := by
  apply ExceptT.ext
  funext i
  show (x >>= f).run >>= (fun r => pure (r, i)) =
    (x.run >>= fun r => pure (r, i)) >>= fun p => _
  rw [ExceptT.run_bind, bind_assoc, bind_assoc]
  congr 1
  funext r
  rw [pure_bind]
  cases r with
  | ok a => rfl
  | error e => rfl

end Instance

namespace InstanceAction

open Instance (move act)

variable {σ α β : Type} {env : Environment services σ} {i i' : Instance} {s s' : σ}
  {ms : List (Moment services σ)}

/-- The runs of an operation: from an instance and a state over moments to a result, an
instance and a state. -/
abbrev Runs (env : Environment services σ) (x : InstanceAction α) (i : Instance) (s : σ)
    (ms : List (Moment services σ)) (r : Except Failure α) (i' : Instance) (s' : σ) : Prop :=
  Program.Runs env (x.run.run i) s ms (r, i') s'

theorem runs_get_iff {r : Except Failure Instance} :
    Runs env (getThe Instance) i s ms r i' s' ↔ ms = [] ∧ r = .ok i ∧ i' = i ∧ s' = s := by
  have : (ExceptT.run (getThe Instance : InstanceAction Instance)).run i = pure (.ok i, i) := rfl
  rw [Runs, this, Program.runs_pure_iff, Prod.mk.injEq, and_assoc]

theorem runs_act_iff {x : Action α} {r : Except Failure α} :
    Runs env (act x) i s ms r i' s' ↔ i' = i ∧ Action.Runs env x s ms r s' := by
  show Program.Runs env (do return (← x.run, i)) s ms (r, i') s' ↔ _
  rw [Program.runs_map_iff]
  constructor
  · rintro ⟨_, heq, run⟩
    cases heq
    exact ⟨rfl, run⟩
  · rintro ⟨rfl, run⟩
    exact ⟨r, rfl, run⟩

/-- A move is made where the lifecycle allows it, and refused elsewhere. -/
theorem run_move {next : Lifecycle} :
    (move next).run.run i =
      if i.lifecycle.canMoveTo next then pure (.ok (), i.movedTo next)
      else pure (.error (.lifecycle ⟨i.slot, i.lifecycle, next⟩), i) := by
  have unfolded : (move next).run.run i =
      (ExceptT.run (if i.lifecycle.canMoveTo next then set (i.movedTo next)
        else throw (.lifecycle ⟨i.slot, i.lifecycle, next⟩) : InstanceAction Unit)).run i := rfl
  rw [unfolded]
  split <;> rfl

theorem runs_move_iff {next : Lifecycle} {r : Except Failure Unit} :
    Runs env (move next) i s ms r i' s' ↔
      ms = [] ∧ s' = s ∧
        if i.lifecycle.canMoveTo next then r = .ok () ∧ i' = i.movedTo next
        else r = .error (.lifecycle ⟨i.slot, i.lifecycle, next⟩) ∧ i' = i := by
  rw [Runs, run_move]
  split <;> rw [Program.runs_pure_iff, Prod.mk.injEq, and_comm (b := s' = s)]

/-- A sequence fails with its first part, or its first part succeeds and the second follows. -/
theorem runs_bind_iff {x : InstanceAction α} {f : α → InstanceAction β} {r : Except Failure β} :
    Runs env (x >>= f) i s ms r i' s' ↔
      (∃ e, r = .error e ∧ Runs env x i s ms (.error e) i' s') ∨
      ∃ a i₁ s₁ ms₁ ms₂, ms = ms₁ ++ ms₂ ∧ Runs env x i s ms₁ (.ok a) i₁ s₁ ∧
        Runs env (f a) i₁ s₁ ms₂ r i' s' := by
  rw [Runs, ExceptT.run_bind, StateT.run_bind, Program.runs_bind_iff]
  constructor
  · rintro ⟨⟨a | e, i₁⟩, s₁, ms₁, ms₂, rfl, run, last⟩
    · obtain ⟨rfl, heq, rfl⟩ := Program.runs_pure_iff.mp last
      cases heq
      exact .inl ⟨_, rfl, by rwa [List.append_nil]⟩
    · exact .inr ⟨_, i₁, s₁, ms₁, ms₂, rfl, run, last⟩
  · rintro (⟨e, rfl, run⟩ | ⟨a, i₁, s₁, ms₁, ms₂, rfl, run, last⟩)
    · exact ⟨(.error e, i'), s', ms, [], (List.append_nil ms).symm, run,
        Program.runs_pure_iff.mpr ⟨rfl, rfl, rfl⟩⟩
    · exact ⟨(.ok a, i₁), s₁, ms₁, ms₂, rfl, run, last⟩

/-- An operation that enters a state does nothing where the lifecycle does not allow it, and goes
on with the instance in that state where it does. -/
theorem runs_enter_iff {first : Lifecycle} {f : Instance → InstanceAction α}
    {r : Except Failure α} :
    Runs env (do move first; let i ← getThe Instance; f i) i s ms r i' s' ↔
      if i.lifecycle.canMoveTo first then
        Runs env (f (i.movedTo first)) (i.movedTo first) s ms r i' s'
      else ms = [] ∧ r = .error (.lifecycle ⟨i.slot, i.lifecycle, first⟩) ∧ i' = i ∧ s' = s := by
  rw [Runs, ExceptT.run_bind, StateT.run_bind, run_move]
  split
  · rw [pure_bind]
    exact Iff.rfl
  · rw [pure_bind]
    show Program.Runs env (pure _) s ms (r, i') s' ↔ _
    rw [Program.runs_pure_iff, Prod.mk.injEq, and_assoc]

/-- Work that is followed by a move that the lifecycle allows: the instance moves if the work
succeeds, and stays if it fails. -/
theorem runs_leave_iff {last : Lifecycle} (allowed : i.lifecycle.canMoveTo last = true)
    {x : Action Unit} {r : Except Failure Unit} :
    Runs env (do act x; move last) i s ms r i' s' ↔
      Action.Runs env x s ms r s' ∧ i' = if r.isOk then i.movedTo last else i := by
  rw [runs_bind_iff]
  constructor
  · rintro (⟨e, rfl, works⟩ | ⟨_, i₁, s₁, ms₁, _, rfl, works, moves⟩)
    · obtain ⟨rfl, run⟩ := runs_act_iff.mp works
      exact ⟨run, rfl⟩
    · obtain ⟨rfl, run⟩ := runs_act_iff.mp works
      obtain ⟨rfl, rfl, ended⟩ := runs_move_iff.mp moves
      rw [if_pos allowed] at ended
      obtain ⟨rfl, rfl⟩ := ended
      exact ⟨by rwa [List.append_nil], rfl⟩
  · rintro ⟨run, rfl⟩
    cases r with
    | error e => exact .inl ⟨e, rfl, runs_act_iff.mpr ⟨rfl, run⟩⟩
    | ok _ =>
      refine .inr ⟨(), i, s', ms, [], (List.append_nil ms).symm, runs_act_iff.mpr ⟨rfl, run⟩, ?_⟩
      refine runs_move_iff.mpr ⟨rfl, rfl, ?_⟩
      rw [if_pos allowed]
      exact ⟨rfl, rfl⟩

end InstanceAction

end VmDeploy
