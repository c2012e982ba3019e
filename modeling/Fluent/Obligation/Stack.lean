import Fluent.Obligation.Basic
import Fluent.Types.Declarations

/-! The stack of obligations along a chain.

A step to a new builder opens an obligation above the others, and a step back to the
builder of a lower one closes those above it. -/

set_option autoImplicit false

namespace Fluent

/-- A step of a chain that yields a builder, with what the index says about it. -/
structure Move where
  start : Nat
  stop : Nat
  node : NodeRef
  terminal : Bool
  message : Text.Bytes
  /-- The builder's declared type. -/
  type : NamedId
  facts : TypeFacts

def Move.open (move : Move) : Pending :=
  { start := move.start
    stop := move.stop
    type := move.type
    facts := move.facts
    message := move.message
    reached := false }

/-- Obligations under way. The stack is never empty. -/
structure Stack where
  closed : List Obligation
  /-- The stack below its top, the nearest first. -/
  below : List Pending
  top : Pending

namespace Stack

def start (root : Pending) : Stack :=
  { closed := [], below := [], top := root }

def pending (stack : Stack) : List Pending :=
  stack.below.reverse ++ [stack.top]

/-- Split a list at the first element that fits: those before it, itself, those behind. -/
def splitAtFirst {α : Type} (fits : α → Bool) : List α → Option (List α × α × List α)
  | [] => none
  | element :: elements =>
    if fits element then some ([], element, elements)
    else (splitAtFirst fits elements).map fun (before, found, after) => (element :: before, found, after)

/-- Note that a terminal method has been called on the top builder. -/
def mark (stack : Stack) (terminal : Bool) : Stack :=
  { stack with top := { stack.top with reached := stack.top.reached || terminal } }

/-- Take a step that yields a builder, after its terminal mark has been noted. -/
def advance (stack : Stack) (move : Move) : Stack :=
  if move.type = stack.top.type then stack
  else
    match splitAtFirst (fun pending => pending.type = move.type) stack.below with
    | some (above, found, rest) =>
      -- Back to an enclosing builder.
      let lost := (stack.top :: above).reverse.map fun pending => pending.close .escape move.node
      { closed := stack.closed ++ lost, below := rest, top := found }
    | none =>
      if stack.top.facts.isStage then
        -- The obligation of a sequence moves on to the next stage.
        { stack with
          top := { stack.top with
            type := move.type
            facts := move.facts
            message := if stack.top.message.isEmpty then move.message else stack.top.message } }
      else if stack.top.reached then
        { stack with
          closed := stack.closed ++ [stack.top.resolve .discharged]
          top := move.open }
      else
        { stack with
          below := stack.top :: stack.below
          top := move.open }

def step (stack : Stack) (move : Move) : Stack :=
  (stack.mark move.terminal).advance move

end Stack

end Fluent
