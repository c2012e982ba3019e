import Fluent.Index.Facts

/-! Inquiries: computations that ask an index.

The answers of an index come with a new memo, so an inquiry is kept as a tree of
questions. It can be run against an index and its memo, or against fixed answers. -/

set_option autoImplicit false

namespace Fluent

inductive Question where
  | facts (id : NamedId)
  | terminal (func : FuncId)
  deriving DecidableEq

abbrev Question.Answer : Question → Type
  | .facts _ => Option TypeFacts
  | .terminal _ => Bool

inductive Inquiry (α : Type) : Type where
  | done (value : α)
  | ask (question : Question) (next : question.Answer → Inquiry α)

namespace Inquiry

variable {α β : Type}

def bind : Inquiry α → (α → Inquiry β) → Inquiry β
  | .done value, next => next value
  | .ask question rest, next => .ask question fun answer => (rest answer).bind next

instance : Monad Inquiry where
  pure := .done
  bind := bind

abbrev View := (question : Question) → question.Answer

def runWith (view : View) : Inquiry α → α
  | .done value => value
  | .ask question next => (next (view question)).runWith view

/-- Run against answers that come with a new memo. -/
def runFrom (answer : (question : Question) → Memo → question.Answer × Memo) :
    Inquiry α → Memo → α × Memo
  | .done value, memo => (value, memo)
  | .ask question next, memo =>
    match answer question memo with
    | (given, memo) => (next given).runFrom answer memo

@[simp] theorem runWith_pure (view : View) (value : α) :
    (pure value : Inquiry α).runWith view = value := rfl

@[simp] theorem runWith_bind (view : View) (inquiry : Inquiry α) (next : α → Inquiry β) :
    (inquiry >>= next).runWith view = (next (inquiry.runWith view)).runWith view := by
  induction inquiry with
  | done value => rfl
  | ask question rest ih => exact ih (view question)

@[simp] theorem runWith_ite (view : View) (condition : Prop) [Decidable condition]
    (first second : Inquiry α) :
    (if condition then first else second).runWith view =
      if condition then first.runWith view else second.runWith view := by
  split <;> rfl

theorem runFrom_bind (answer : (question : Question) → Memo → question.Answer × Memo)
    (inquiry : Inquiry α) (next : α → Inquiry β) (memo : Memo) :
    (inquiry >>= next).runFrom answer memo =
      (next (inquiry.runFrom answer memo).1).runFrom answer (inquiry.runFrom answer memo).2 := by
  induction inquiry generalizing memo with
  | done value => rfl
  | ask question rest ih => exact ih (answer question memo).1 (answer question memo).2

/-- The facts of a type, if it is known and a builder. -/
def factsOf (decls : Declarations) (type : Option Ty) : Inquiry (Option TypeFacts) :=
  match type.bind decls.base? with
  | none => .done none
  | some id => .ask (.facts id) .done

def isBuilder (decls : Declarations) (type : Option Ty) : Inquiry Bool := do
  let facts ← factsOf decls type
  return facts.isSome

def isTerminal (func : Option FuncId) : Inquiry Bool :=
  match func with
  | none => .done false
  | some func => .ask (.terminal func) .done

end Inquiry

def Index.answer (index : Index) : (question : Question) → Memo → question.Answer × Memo
  | .facts id, memo => index.facts id memo
  | .terminal func, memo => index.rules.isTerminal func memo

def Index.run {α : Type} (index : Index) (inquiry : Inquiry α) (memo : Memo) : α × Memo :=
  inquiry.runFrom index.answer memo

end Fluent
