import Fluent.Source.File
import Fluent.Types.Members

/-! Programs: declarations and the packages that hold them. -/

set_option autoImplicit false

namespace Fluent

inductive ScopeEntry where
  | func (id : FuncId)
  | type (type : Ty)

structure Package where
  imports : List PackageId
  scope : List (String × ScopeEntry)
  files : List SourceFile

structure Program where
  decls : Declarations
  packages : List Package

namespace Program

/-- A package and what it imports, directly or not. Of several packages with one path the first
one met counts. -/
def collectImports (program : Program) : (fuel : Nat) → List PackageId → PackageId → List PackageId
  | 0, known, _ => known
  | fuel + 1, known, package =>
    if known.any fun other => program.decls.packagePath other = program.decls.packagePath package
    then known
    else
      match program.packages[package]? with
      | none => known
      | some found =>
        found.imports.foldl (program.collectImports fuel) (known ++ [package])

/-- The package with a path among a package and its imports. -/
def visiblePackage? (program : Program) (package : PackageId) (path : String) : Option PackageId :=
  (program.collectImports program.packages.length [] package).find? fun other =>
    program.decls.packagePath other = path

/-- The function that a qualified name denotes for a package. A method may be promoted. -/
def resolve? (program : Program) (package : PackageId) (name : QualifiedName) : Option Method :=
  (program.visiblePackage? package name.path).bind fun owner =>
    (program.packages[owner]?).bind fun found =>
      match name.receiver with
      | none =>
        match found.scope.lookup name.name with
        | some (.func id) =>
          program.decls.functions[id]?.map fun _ => .plain id
        | _ => none
      | some receiver =>
        match found.scope.lookup receiver with
        | some (.type type) => program.decls.method? type (some owner) name.name
        | _ => none

end Program

end Fluent
