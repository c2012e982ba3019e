import Fluent.Index.Inquiry
import Fluent.Obligation.Stack

/-! Resolution of the obligations of a chain. -/

set_option autoImplicit false

namespace Fluent

inductive Ending where
  /-- At a step that yields no builder. -/
  | consumed (terminal : Bool) (node : NodeRef)
  | finished

/-- A chain as its obligations see it: the builders that its steps yield, and how it ends. -/
structure Course where
  root : Pending
  moves : List Move
  ending : Ending
  terminated : Bool

namespace Course

def stack (course : Course) : Stack :=
  course.moves.foldl Stack.step (.start course.root)

/-- The obligations left open when the walk ends at its last step, if it does so. -/
def remaining (course : Course) : List Pending :=
  match course.ending with
  | .consumed _ _ => []
  | .finished => course.stack.pending

/-- Does an open obligation depend on the context of the chain? -/
def asksContext (course : Course) (pending : Pending) : Bool :=
  !pending.reached && !course.terminated

/-- Resolve all obligations; `accepts` says whether the context of the chain takes over builders. -/
def resolve (course : Course) (context : Context) (accepts : Bool) : List Obligation :=
  match course.ending with
  | .consumed terminal node =>
    let stack := course.stack.mark terminal
    stack.closed ++ stack.pending.map fun pending =>
      if course.terminated then pending.resolve .discharged else pending.close .escape node
  | .finished =>
    course.stack.closed ++ course.stack.pending.map fun pending =>
      if course.asksContext pending && !accepts
      then pending.resolve (.violated context.usage (some context.node))
      else pending.resolve .discharged

end Course

/-- Does a context take over the builders that it gets? -/
def Context.accepts (decls : Declarations) (context : Context) : Inquiry Bool :=
  match context.usage with
  | .statement | .escape => return false
  | .assignment | .other => return true
  | .argument | .returned | .closure =>
    match context.type with
    | none => return true
    | some type => Inquiry.isBuilder decls (some type)
  | .reference =>
    match context.type.map decls.underlying with
    | some (.func signature) => Inquiry.isBuilder decls signature.result?
    | _ => return true

namespace Chain

/-- Follow the steps of a chain up to the first one that yields no builder. -/
def moves (markers : Markers) : List Step → Inquiry (List Move × Ending)
  | [] => return ([], .finished)
  | step :: steps => do
    let terminal ← Inquiry.isTerminal step.method
    match step.result.bind markers.decls.base?, ← Inquiry.factsOf markers.decls step.result with
    | some type, some facts =>
      let move : Move :=
        { start := step.start
          stop := step.stop
          node := step.expr
          terminal
          message := (step.method.map fun func => (markers.of func).message).getD []
          type
          facts }
      let (moves, ending) ← moves markers steps
      return (move :: moves, ending)
    | _, _ => return ([], .consumed terminal step.expr)

/-- The course of a chain whose root is a builder. -/
def course? (markers : Markers) (chain : Chain) : Inquiry (Option Course) := do
  match chain.root.type.bind markers.decls.base?,
      ← Inquiry.factsOf markers.decls chain.root.type with
  | some type, some facts =>
    let terminated ← Inquiry.isTerminal (chain.steps.getLast?.bind Step.method)
    let (moves, ending) ← moves markers chain.steps
    let root : Pending :=
      { start := chain.root.expr.start
        stop := chain.root.expr.stop
        type
        facts
        message := chain.root.message
        reached := false }
    return some { root, moves, ending, terminated }
  | _, _ => return none

/-- A lost builder of a chain that is exempt from checks is not held against it. -/
def suppress (context : Context) (obligation : Obligation) : Obligation :=
  match obligation.outcome with
  | .violated _ _ => { obligation with outcome := .suppressed context.usage }
  | _ => obligation

/-- The obligations of a chain. The context is asked only if an obligation depends on it. -/
def obligations (markers : Markers) (chain : Chain) : Inquiry (List Obligation) := do
  match ← chain.course? markers with
  | none => return []
  | some course =>
    let accepts ←
      if course.remaining.any course.asksContext then chain.context.accepts markers.decls
      else pure false
    let obligations := course.resolve chain.context accepts
    return if chain.suppressed then obligations.map (suppress chain.context) else obligations

def allObligations (markers : Markers) : List Chain → Inquiry (List Obligation)
  | [] => return []
  | chain :: chains => do
    let first ← chain.obligations markers
    let rest ← allObligations markers chains
    return first ++ rest

end Chain

end Fluent
