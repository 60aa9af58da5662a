/-!
# Programs

A program asks questions, one after the other, and goes on with the answers
until it has a value. It says nothing about who answers: `run` lets a state
answer, so that one program can be run against a simulated world, against a
script of failures, or against a list that notes the questions.

The laws at the end say that `run` respects sequencing; a property of a long
program follows from the properties of its parts.
-/

set_option autoImplicit false

namespace VmDeploy

/-- The questions that may be asked, and what answers each of them. -/
structure Interface where
  Question : Type
  Answer : Question → Type

/-- A program that asks questions of an interface and ends with a value. -/
inductive Program (I : Interface) (α : Type) where
  | done (value : α)
  | ask (question : I.Question) (next : I.Answer question → Program I α)

namespace Program

variable {I : Interface} {α β σ : Type}

/-- The value of a program goes into the next. -/
def bind : Program I α → (α → Program I β) → Program I β
  | .done a, f => f a
  | .ask q next, f => .ask q fun answer => (next answer).bind f

instance : Monad (Program I) where
  pure := .done
  bind := bind

/-- One question. -/
def question (q : I.Question) : Program I (I.Answer q) := .ask q .done

/-- Who answers questions out of a state. -/
abbrev Handler (I : Interface) (σ : Type) := (q : I.Question) → σ → I.Answer q × σ

/-- Runs a program against a handler. -/
def run (handler : Handler I σ) : Program I α → σ → α × σ
  | .done a, s => (a, s)
  | .ask q next, s =>
    match handler q s with
    | (answer, s) => (next answer).run handler s

@[simp] theorem run_pure (handler : Handler I σ) (a : α) (s : σ) :
    (pure a : Program I α).run handler s = (a, s) := rfl

@[simp] theorem run_question (handler : Handler I σ) (q : I.Question) (s : σ) :
    (question q).run handler s = handler q s := rfl

/-- Parts are run one after the other. -/
theorem run_bind (handler : Handler I σ) (p : Program I α) (f : α → Program I β) (s : σ) :
    (p >>= f).run handler s = (f (p.run handler s).1).run handler (p.run handler s).2 := by
  show (p.bind f).run handler s = _
  induction p generalizing s with
  | done a => rfl
  | ask q next ih => exact ih (handler q s).1 (handler q s).2

theorem bind_done (p : Program I α) : p.bind .done = p := by
  induction p with
  | done a => rfl
  | ask q next ih => simp [bind, ih]

theorem bind_assoc {γ : Type} (p : Program I α) (f : α → Program I β) (g : β → Program I γ) :
    (p.bind f).bind g = p.bind fun a => (f a).bind g := by
  induction p with
  | done a => rfl
  | ask q next ih => simp [bind, ih]

instance : LawfulMonad (Program I) :=
  LawfulMonad.mk' (Program I)
    (fun p => bind_done p)
    (fun _ _ => rfl)
    (fun p f g => bind_assoc p f g)

end Program

end VmDeploy
