import Fluent.Syntax.Node
import Fluent.Text.Name
import Fluent.Text.Utf8

/-! Call chains: method calls, each on the result of the one before, from a root value
to the context that consumes the last result. -/

set_option autoImplicit false

namespace Fluent

inductive RootKind where
  | entryPoint
  /-- A call of any other function that yields a builder. -/
  | call
  | composite
  /-- The receiver of the enclosing method. -/
  | self
  | operand
  /-- A method of a type, or an entry point that is not called. -/
  | reference
  deriving DecidableEq

namespace RootKind

def label : RootKind → String
  | .entryPoint => "entry point"
  | .call => "call"
  | .composite => "composite literal"
  | .self => "receiver"
  | .operand => "variable"
  | .reference => "function reference"

/-- The kinds in the order of their numbers. -/
def all : List RootKind := [.entryPoint, .call, .composite, .self, .operand, .reference]

def labelOf (number : Nat) : String :=
  numberedLabel "RootKind" (all.map label) number

end RootKind

inductive Usage where
  | statement
  | assignment
  | argument
  /-- Returns it from a declared function. -/
  | returned
  /-- Returns it from a function literal. -/
  | closure
  /-- Uses a method or an entry point as a function. -/
  | reference
  /-- Consumes it by a step that yields no builder. -/
  | escape
  | other
  deriving DecidableEq

namespace Usage

def label : Usage → String
  | .statement => "statement"
  | .assignment => "assignment"
  | .argument => "argument"
  | .returned => "return"
  | .closure => "closure"
  | .reference => "function reference"
  | .escape => "escape"
  | .other => "other"

/-- The usages in the order of their numbers. -/
def all : List Usage :=
  [.statement, .assignment, .argument, .returned, .closure, .reference, .escape, .other]

def labelOf (number : Nat) : String :=
  numberedLabel "Usage" (all.map label) number

end Usage

structure Root where
  kind : RootKind
  expr : NodeRef
  type : Option Ty
  /-- The function that is called or referred to. -/
  func : Option FuncId
  message : Text.Bytes

structure Step where
  /-- The call of a method, or the selector of a field or of a method that is not called. -/
  expr : NodeRef
  sel : Ident
  method : Option FuncId
  /-- The type of the step's value; for a method that is not called, that of its result. -/
  result : Option Ty

/-- A step is shown from its name to its end. -/
def Step.start (step : Step) : Nat := step.sel.head.start

def Step.stop (step : Step) : Nat := step.expr.stop

structure Context where
  usage : Usage
  /-- The type that the context expects, if known. -/
  type : Option Ty
  node : NodeRef

structure Chain where
  root : Root
  /-- The steps from the root outwards. -/
  steps : List Step
  outer : NodeRef
  context : Context
  suppressed : Bool

end Fluent
