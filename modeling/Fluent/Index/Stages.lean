import Fluent.Index.Terminal

/-! Stages: the types between an entry point and the terminal methods that complete its chain.

An entry point leads to its result type, and a type leads to the results of its
methods, as long as they are declared in the same package. A type on such a way is a
stage if the way goes on to a type with a terminal method. -/

set_option autoImplicit false

namespace Fluent

/-- The terminal names that can be reached from each stage, sorted. -/
abbrev StageTable := List (NamedId × List String)

/-- The declared types of one package that the methods of a type lead to. -/
def Declarations.successors (decls : Declarations) (id : NamedId) : List NamedId :=
  (decls.methodSet id).flatMap fun method =>
    ((decls.resultsOf method).filterMap decls.base?).filter fun next =>
      decls.packageOf next = decls.packageOf id

def addNames (names more : List String) : List String :=
  more.foldl (fun names name => if name ∈ names then names else names ++ [name]) names

/-- The order in which some types are asked for their terminal names. Every order is possible, and
it can make a difference where types embed each other in a circle. -/
structure VisitOrder where
  arrange : List NamedId → List NamedId
  perm : ∀ types, (arrange types).Perm types

/-- Each type is asked when it is found. -/
def VisitOrder.asFound : VisitOrder := { arrange := id, perm := .refl }

namespace TerminalRules

variable (rules : TerminalRules)

/-- Look up the terminal names of several types in turn. -/
def terminalTable : List NamedId → Memo → List (NamedId × List String) × Memo
  | [], memo => ([], memo)
  | id :: ids, memo =>
    match rules.terminalNames id memo with
    | (names, memo) =>
      match terminalTable ids memo with
      | (table, memo) => ((id, names) :: table, memo)

/-- The terminal names of a type and of the types that it leads to. -/
def reachableNames (table : List (NamedId × List String)) (id : NamedId) : List String :=
  let decls := rules.markers.decls
  let types := Graph.reachable decls.successors decls.types.size [id]
  types.foldl (fun names other => addNames names ((table.lookup other).getD []))
    ((table.lookup id).getD [])

/-- The stages that entry points with the given results lead to. -/
def stages (order : VisitOrder) (results : List Ty) (memo : Memo) : StageTable × Memo :=
  let decls := rules.markers.decls
  let types := Graph.reachable decls.successors decls.types.size (results.filterMap decls.base?)
  let (table, memo) := rules.terminalTable (order.arrange types) memo
  let stage (id : NamedId) : Option (NamedId × List String) :=
    match rules.reachableNames table id with
    | [] => none
    | names => some (id, sortByKey (fun name => name) names)
  (types.filterMap stage, memo)

end TerminalRules

end Fluent
