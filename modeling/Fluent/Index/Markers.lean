import Fluent.Marker.Basic
import Fluent.Program
import Fluent.Rule.Basic

/-! The markers that a package sees.

A marker comes from a directive in the package, from a package analysed before, or
from a rule. -/

set_option autoImplicit false

namespace Fluent

/-- Markers by function, as one package hands them on to others. -/
abbrev MarkerTable := List (FuncId × Marker)

structure Markers where
  decls : Declarations
  package : PackageId
  /-- From the directives of the package itself. -/
  declared : MarkerTable
  /-- From the packages analysed before. -/
  imported : MarkerTable
  ruled : List (QualifiedName × Marker)

/-- The marker of a function. A directive of the package itself goes before all else, and a
marker handed on by another package before a rule. -/
def Markers.of (markers : Markers) (func : FuncId) : Marker :=
  match markers.declared.lookup func with
  | some marker => marker
  | none =>
    match markers.decls.functionPackage func with
    | none => .unmarked
    | some package =>
      let handedOn := if package = markers.package then none else markers.imported.lookup func
      match handedOn with
      | some marker => marker
      | none => (markers.ruled.lookup (markers.decls.qualifiedName func)).getD .unmarked

/-- The message of an entry point, if a function is one. -/
def Markers.entryPoint? (markers : Markers) (func : FuncId) : Option Text.Bytes :=
  let marker := markers.of func
  if marker.kind = .entryPoint then some marker.message else none

def Markers.ignores (markers : Markers) (func : FuncId) : Bool :=
  (markers.of func).kind = .ignore

/-- Add rules behind those present; the first rule for a name counts. -/
def addRules (kind : MarkerKind) (ruled : List (QualifiedName × Marker)) (rules : List Rule) :
    List (QualifiedName × Marker) :=
  rules.foldl (fun ruled rule =>
    match QualifiedName.parse rule.func with
    | .error _ => ruled
    | .ok name =>
      if (ruled.lookup name).isSome then ruled
      else ruled ++ [(name, { kind, message := .ofString rule.message })]) ruled

def RuleSet.markers (rules : RuleSet) : List (QualifiedName × Marker) :=
  addRules .ignore (addRules .entryPoint (addRules .terminal [] rules.terminals) rules.entryPoints)
    rules.ignored

end Fluent
