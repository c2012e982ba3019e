import Fluent.Index.Stages

/-! Facts about builder types. A type is a builder if it has a terminal method or is a stage. -/

set_option autoImplicit false

namespace Fluent

structure TypeFacts where
  /-- The names of the type's own terminal methods, sorted. -/
  terminals : List String
  /-- The names of the terminal methods that can be reached from a stage, sorted. -/
  reachable : List String
  deriving DecidableEq

/-- A stage has no terminal methods of its own. -/
def TypeFacts.isStage (facts : TypeFacts) : Bool :=
  facts.terminals.isEmpty

/-- The names of the methods that complete a chain of the type. -/
def TypeFacts.names (facts : TypeFacts) : List String :=
  if facts.isStage then facts.reachable else dropRepeats facts.terminals

/-- All that is known about the builders visible in a package. -/
structure Index where
  rules : TerminalRules
  stages : StageTable

namespace Index

variable (index : Index)

def markers : Markers := index.rules.markers

def decls : Declarations := index.rules.markers.decls

/-- The facts of a declared type, if it is a builder. -/
def facts (id : NamedId) (memo : Memo) : Option TypeFacts × Memo :=
  match index.rules.terminalNames id memo with
  | ([], memo) => ((index.stages.lookup id).map fun reachable => { terminals := [], reachable }, memo)
  | (terminals, memo) => (some { terminals, reachable := [] }, memo)

/-- The facts of the declared type that a type is or points to. -/
def factsOf (type : Ty) (memo : Memo) : Option TypeFacts × Memo :=
  match index.decls.base? type with
  | none => (none, memo)
  | some id => index.facts id memo

end Index

end Fluent
