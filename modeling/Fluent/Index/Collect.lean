import Fluent.Index.Markers
import Fluent.Marker.Directive

/-! Collecting the directives of a package, and what is wrong with them. -/

set_option autoImplicit false

namespace Fluent

/-- A place in a file of the package under analysis, without an end if none is known. -/
structure Place where
  file : Nat
  start : Nat
  stop : Option Nat
  deriving DecidableEq

inductive Problem where
  | directive (error : DirectiveError)
  | conflicting (first later : MarkerKind) (function : String)
  | terminalFunction (function : String)
  | entryWithoutResult (function : String)
  | unreachableTerminal (function : String)
  deriving DecidableEq

def Problem.message : Problem → String
  | .directive error => error.message
  | .conflicting first later function =>
    "conflicting directives endcheck:" ++ first.label ++ " and endcheck:" ++ later.label ++
      " on " ++ function
  | .terminalFunction function =>
    "endcheck:end on function " ++ function ++ ", terminals must be methods"
  | .entryWithoutResult function => "entry point " ++ function ++ " has no result"
  | .unreachableTerminal function =>
    "entry point " ++ function ++ " never reaches a terminal method"

structure Declaration where
  place : Place
  message : String
  deriving DecidableEq

/-- A function declared with a doc comment, in a numbered file. -/
structure Declared where
  file : Nat
  func : Option FuncId
  doc : CommentGroup

/-- The functions that a declaration at package level declares: itself, or the methods of
interfaces written out in it. -/
def Node.declared (file : Nat) : Node → List Declared
  | .funcDecl _ func doc _ _ => [{ file, func, doc }]
  | .genDecl _ true specs =>
    specs.flatMap fun
      | .typeSpec _ methods =>
        methods.filterMap fun method =>
          match method.names with
          | [func] => some { file, func, doc := method.doc }
          | _ => none
      | _ => []
  | _ => []

/-- All functions declared in a package, in the order of its text. -/
def Package.declared (package : Package) : List Declared :=
  package.files.zipIdx.flatMap fun (file, number) => file.decls.flatMap (Node.declared number)

structure Collected where
  markers : MarkerTable
  /-- The entry points with the places of their directives. -/
  entries : List (FuncId × Place)
  problems : List Declaration

namespace Declared

/-- The comments of a function that fail to be directives. -/
def badDirectives (declared : Declared) : List Declaration :=
  (directiveErrors declared.doc).map fun (comment, error) =>
    { place := { file := declared.file, start := comment.start, stop := some comment.stop }
      message := (Problem.directive error).message }

/-- Directives of another kind than the first. -/
def conflicts (declared : Declared) (name : String) (first : Marker) (others : List (Nat × Marker)) :
    List Declaration :=
  (others.filter fun (_, other) => other.kind ≠ first.kind).map fun (start, other) =>
    { place := { file := declared.file, start, stop := none }
      message := (Problem.conflicting first.kind other.kind name).message }

end Declared

/-- Why a function cannot have a marker: only a method can be terminal, and only a function with
a result an entry point. -/
def Declarations.refusal? (decls : Declarations) (func : FuncId) (function : Function)
    (kind : MarkerKind) : Option Problem :=
  match kind with
  | .terminal => if function.receiver.isNone then some (.terminalFunction function.name) else none
  | .entryPoint =>
    if (decls.resultOf? (.plain func)).isNone then some (.entryWithoutResult function.name) else none
  | _ => none

/-- Take up the directives of one function. The first directive counts. -/
def Collected.add (decls : Declarations) (collected : Collected) (declared : Declared) : Collected :=
  let collected := { collected with problems := collected.problems ++ declared.badDirectives }
  match directives declared.doc, declared.func.bind fun func =>
      (decls.functions[func]?).map fun function => (func, function) with
  | (start, first) :: others, some (func, function) =>
    let place : Place := { file := declared.file, start, stop := none }
    let problems := collected.problems ++ declared.conflicts function.name first others
    match decls.refusal? func function first.kind with
    | some problem =>
      { collected with problems := problems ++ [{ place, message := problem.message }] }
    | none =>
      { markers := collected.markers.filter (fun (other, _) => other ≠ func) ++ [(func, first)]
        entries := collected.entries ++ if first.kind = .entryPoint then [(func, place)] else []
        problems }
  | _, _ => collected

def Package.collect (package : Package) (decls : Declarations) : Collected :=
  package.declared.foldl (Collected.add decls) { markers := [], entries := [], problems := [] }

end Fluent
