import Fluent.Index.Collect
import Fluent.Index.Facts

/-! Building the index of a package. -/

set_option autoImplicit false

namespace Fluent

/-- What is needed to build the index of a package. -/
structure IndexInput where
  program : Program
  package : PackageId
  rules : RuleSet
  /-- The markers of all packages analysed before. -/
  handedOn : MarkerTable
  order : VisitOrder

/-- An index with the memo of the answers given while building it. -/
structure Built where
  index : Index
  memo : Memo
  /-- The markers that the package hands on to others. -/
  exported : MarkerTable
  declarations : List Declaration

namespace IndexInput

variable (input : IndexInput)

def collected : Collected :=
  match input.program.packages[input.package]? with
  | some package => package.collect input.program.decls
  | none => { markers := [], entries := [], problems := [] }

def ruledFunctions (rules : List Rule) : List Method :=
  rules.filterMap fun rule =>
    match QualifiedName.parse rule.func with
    | .ok name => input.program.resolve? input.package name
    | .error _ => none

def importedOfKind (kind : MarkerKind) : List FuncId :=
  (input.handedOn.filter fun (func, marker) =>
    marker.kind = kind && input.program.decls.functionPackage func ≠ some input.package).map Prod.fst

/-- Functions with the signatures they are declared with. -/
def asDeclared (funcs : List FuncId) : List Method :=
  funcs.filterMap fun func =>
    input.program.decls.functions[func]?.map fun _ => .plain func

def markers : Markers :=
  { decls := input.program.decls
    package := input.package
    declared := input.collected.markers
    imported := input.handedOn
    ruled := input.rules.markers }

/-- The terminal methods of plain interfaces: declared, handed on or denoted by rules. -/
def interfaceTerminals : List Method :=
  let declared := (input.collected.markers.filter fun (_, marker) => marker.kind = .terminal).map Prod.fst
  (input.asDeclared (declared ++ input.importedOfKind .terminal) ++
    input.ruledFunctions input.rules.terminals).filter fun method =>
      input.program.decls.isPlainInterfaceMethod method.func

/-- The entry points that stages start from: declared, handed on or denoted by rules. -/
def entryPoints : List Method :=
  input.asDeclared (input.collected.entries.map Prod.fst ++ input.importedOfKind .entryPoint) ++
    input.ruledFunctions input.rules.entryPoints

def terminalRules : TerminalRules :=
  { markers := input.markers, interfaceTerminals := input.interfaceTerminals }

/-- Check that each declared entry point leads to a terminal method. -/
def checkEntries (index : Index) : List (FuncId × Place) → Memo → List Declaration × Memo
  | [], memo => ([], memo)
  | (func, place) :: entries, memo =>
    let decls := input.program.decls
    let result := decls.resultOf? (.plain func)
    let (facts, memo) :=
      match result with
      | some type => index.factsOf type memo
      | none => (none, memo)
    let (rest, memo) := checkEntries index entries memo
    if facts.isSome then (rest, memo)
    else
      ({ place, message := (Problem.unreachableTerminal (decls.functionNamed func)).message } :: rest,
        memo)

/-- The places of entry points, the last one for each function. -/
def entryPlaces : List (FuncId × Place) :=
  let entries := input.collected.entries
  entries.map fun (func, place) => (func, (entries.reverse.lookup func).getD place)

def build : Built :=
  let results := input.entryPoints.filterMap input.program.decls.resultOf?
  let (stages, memo) := input.terminalRules.stages input.order results []
  let index : Index := { rules := input.terminalRules, stages }
  let (problems, memo) := input.checkEntries index input.entryPlaces memo
  { index
    memo
    exported := input.collected.markers
    declarations := input.collected.problems ++ problems }

end IndexInput

namespace Program

variable (program : Program)

/-- Build the indexes of packages one after another. With `sharing`, each one sees the markers
that the packages before it hand on. -/
def buildFrom (rules : RuleSet) (sharing : Bool) (orders : PackageId → VisitOrder)
    (handedOn : MarkerTable) : List PackageId → List Built
  | [] => []
  | package :: packages =>
    let built := IndexInput.build { program, package, rules, handedOn, order := orders package }
    built ::
      buildFrom rules sharing orders (if sharing then handedOn ++ built.exported else []) packages

def buildAll (rules : RuleSet) (sharing : Bool) (orders : PackageId → VisitOrder) : List Built :=
  program.buildFrom rules sharing orders [] (List.range program.packages.length)

end Program

end Fluent
