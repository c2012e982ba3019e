import Fluent.Chain.Basic
import Fluent.Index.Facts

/-! Obligations: that a builder which came up in a chain reaches a terminal method. -/

set_option autoImplicit false

namespace Fluent

inductive ObligationState where
  | open
  /-- Completed by a terminal method, or handed on to other code. -/
  | discharged
  | suppressed
  /-- The builder was lost before a terminal method. -/
  | violated
  deriving DecidableEq

namespace ObligationState

def label : ObligationState → String
  | .open => "open"
  | .discharged => "discharged"
  | .suppressed => "suppressed"
  | .violated => "violated"

/-- The states in the order of their numbers. -/
def all : List ObligationState := [.open, .discharged, .suppressed, .violated]

def labelOf (number : Nat) : String :=
  numberedLabel "State" (all.map label) number

end ObligationState

/-- An obligation on the stack, not yet resolved. -/
structure Pending where
  /-- Where the expression stands that opened the obligation. -/
  start : Nat
  stop : Nat
  /-- The builder's declared type, which moves on along the stages of a sequence. -/
  type : NamedId
  facts : TypeFacts
  message : Text.Bytes
  reached : Bool

inductive Outcome where
  | discharged
  | suppressed (usage : Usage)
  /-- Lost in a usage, at a node if one is to be shown. -/
  | violated (usage : Usage) (node : Option NodeRef)
  deriving DecidableEq

def Outcome.state : Outcome → ObligationState
  | .discharged => .discharged
  | .suppressed _ => .suppressed
  | .violated _ _ => .violated

/-- The usage in which the builder was lost; an obligation that was not lost has the first one. -/
def Outcome.usage : Outcome → Usage
  | .discharged => .statement
  | .suppressed usage => usage
  | .violated usage _ => usage

def Outcome.node? : Outcome → Option NodeRef
  | .violated _ node => node
  | _ => none

structure Obligation where
  start : Nat
  stop : Nat
  facts : TypeFacts
  message : Text.Bytes
  outcome : Outcome
  deriving DecidableEq

def Pending.resolve (pending : Pending) (outcome : Outcome) : Obligation :=
  { start := pending.start
    stop := pending.stop
    facts := pending.facts
    message := pending.message
    outcome }

/-- Resolve an obligation whose builder is lost at a node. -/
def Pending.close (pending : Pending) (usage : Usage) (node : NodeRef) : Obligation :=
  pending.resolve (if pending.reached then .discharged else .violated usage (some node))

end Fluent
