import Fluent.Proofs.Imports
import Fluent.Proofs.Index.Ruling
import Fluent.Proofs.QualifiedName
import Fluent.Proofs.Types.Members

/-! Functions that go by their own names.

The name of a function that a package declares, be it a function of its own or a method of one of
its types, denotes this very function for all packages that see the package. So a rule that spells
the name in one of the ways to write it marks the function. -/

set_option autoImplicit false

namespace Fluent

namespace Declarations

variable {decls : Declarations} {package : PackageId} {func : FuncId} {function : Function}

/-- What a parser makes sure of where names are declared. -/
structure WellNamed (decls : Declarations) : Prop where
  functions : ∀ function ∈ decls.functions, QualifiedName.IsWord function.name
  types : ∀ id < decls.types.size, ∀ decl ∈ decls.named? id, QualifiedName.IsWord decl.name

theorem qualifiedName_function (known : decls.functions[func]? = some function)
    (owner : function.package = some package) (bare : function.receiver = none) :
    decls.qualifiedName func =
      { path := decls.packagePath package, receiver := none, name := function.name } := by
  simp [qualifiedName, receiverBase?, known, owner, bare]

theorem qualifiedName_method {id : NamedId} {decl : NamedDecl} {entry : TypeId}
    (known : decls.functions[func]? = some function) (owner : function.package = some package)
    (written : function.receiver = some entry) (receiver : decls.ReceiverOf id entry)
    (type : decls.named? id = some decl) :
    decls.qualifiedName func =
      { path := decls.packagePath package, receiver := some decl.name, name := function.name } := by
  simp [qualifiedName, receiverBase?, known, owner, written, receiver.base?_eq, type]

end Declarations

namespace Program

variable {program : Program} {viewer package : PackageId} {func : FuncId}

/-- Does a package declare a function in its scope, or a method of a type in its scope? -/
inductive Declares (program : Program) (package : PackageId) (func : FuncId) : Prop where
  | function {found : Package} {function : Function}
      (present : program.packages[package]? = some found)
      (known : program.decls.functions[func]? = some function)
      (owner : function.package = some package) (bare : function.receiver = none)
      (listed : found.scope.lookup function.name = some (.func func))
  | method {found : Package} {function : Function} {id : NamedId} {decl : NamedDecl} {entry : TypeId}
      (present : program.packages[package]? = some found)
      (known : program.decls.functions[func]? = some function)
      (owner : function.package = some package) (written : function.receiver = some entry)
      (receiver : program.decls.ReceiverOf id entry)
      (type : program.decls.named? id = some decl) (declared : func ∈ program.decls.declaredOn id)
      (listed : found.scope.lookup decl.name = some (.type (.plain id)))

theorem Declares.wellFormed (declares : program.Declares package func)
    (wellNamed : program.decls.WellNamed)
    (path : QualifiedName.IsPath (program.decls.packagePath package)) :
    (program.decls.qualifiedName func).WellFormed := by
  cases declares with
  | function _ known owner bare _ =>
    rw [Declarations.qualifiedName_function known owner bare]
    exact ⟨path, (fun _ none => nomatch none), wellNamed.functions _ (List.mem_of_getElem? known)⟩
  | method _ known owner written receiver type _ _ =>
    rw [Declarations.qualifiedName_method known owner written receiver type]
    refine ⟨path, ?_, wellNamed.functions _ (List.mem_of_getElem? known)⟩
    rintro _ ⟨rfl⟩
    exact wellNamed.types _ (Declarations.lt_of_named? type) _ type

theorem Declares.visible (declares : program.Declares package func)
    (distinct : program.DistinctPaths viewer) (sees : program.Sees viewer package) :
    program.visiblePackage? viewer (program.decls.packagePath package) = some package := by
  apply visiblePackage?_path distinct sees
  cases declares with
  | function present _ _ _ _ => exact (List.getElem?_eq_some_iff.mp present).1
  | method present _ _ _ _ _ _ _ => exact (List.getElem?_eq_some_iff.mp present).1

/-- The name of a declared function denotes the function. -/
theorem Declares.resolve?_eq (declares : program.Declares package func)
    (distinct : program.DistinctPaths viewer) (sees : program.Sees viewer package)
    (wellDeclared : program.decls.WellDeclared) (named : program.decls.functionNamed func ≠ "_") :
    program.resolve? viewer (program.decls.qualifiedName func) = some (.plain func) := by
  have visible := declares.visible distinct sees
  cases declares with
  | function present known owner bare listed =>
    rw [Declarations.qualifiedName_function known owner bare]
    simp only [resolve?, visible, Option.bind_some, present, listed, known, Option.map_some]
  | method present known owner written receiver type declared listed =>
    have denoted := Declarations.method?_of_declaredOn wellDeclared (by rw [known]; rfl) declared named
    simp only [Declarations.functionPackage, Declarations.functionNamed, known, Option.bind_some,
      owner] at denoted
    rw [Declarations.qualifiedName_method known owner written receiver type]
    simp only [resolve?, visible, Option.bind_some, present, listed, denoted]

end Program

/-- The name of a function that a package declares denotes the function for each package that sees
the declaring one. A rule which spells this name, with or without a star before the receiver and
with any white space around it, marks the function, provided that no directive does and no earlier
rule has the name. -/
theorem IndexInput.canonical_name_denotes {input : IndexInput} {package : PackageId} {func : FuncId}
    (distinct : input.program.DistinctPaths input.package)
    (wellDeclared : input.program.decls.WellDeclared) (wellNamed : input.program.decls.WellNamed)
    (sees : input.program.Sees input.package package)
    (path : QualifiedName.IsPath (input.program.decls.packagePath package))
    (declares : input.program.Declares package func)
    (named : input.program.decls.functionNamed func ≠ "_") :
    input.program.visiblePackage? input.package (input.program.decls.packagePath package) = some package ∧
    input.program.resolve? input.package (input.program.decls.qualifiedName func) = some (.plain func) ∧
    ∀ before kind rule after, input.rules.byKind = before ++ (kind, rule) :: after →
      (input.program.decls.qualifiedName func).WrittenAs rule.func → input.directed? func = none →
      (∀ earlier ∈ before,
        QualifiedName.parse earlier.2.func ≠ .ok (input.program.decls.qualifiedName func)) →
      input.build.index.markers.of func = rule.marker kind := by
  refine ⟨declares.visible distinct sees, declares.resolve?_eq distinct sees wellDeclared named, ?_⟩
  intro before kind rule after listed written undirected first
  have read := (declares.wellFormed wellNamed path).parse_of_writtenAs written
  change input.markers.of func = _
  rw [markers_of_eq, decisive?, undirected, RuleSet.markerFor?, RuleSet.ruleFor?_eq_some listed read first]
  rfl

namespace Sample

/-- A package with a generic type `Box`, whose method `Open` has a pointer as its receiver, and a package
that imports it. A rule names the method with a star and with blanks around it. -/
def boxing : IndexInput :=
  { program :=
      { decls :=
          { packagePaths := ["gopkg.in/yaml.v3", "app"]
            types := #[
              .declared { name := "Box", package := some 0, underlying := 3, methods := [0], typeParams := [1] },
              .param 4,
              .param 4,
              .literal (.struct none []),
              .literal (.interface false [] []),
              .instantiated 0 [2],
              .literal (.pointer 5),
              .literal (.func { params := [], results := [], variadic := false })]
            functions := [
              { name := "Open", package := some 0, type := 7, receiver := some 6, typeParams := [],
                receiverParams := [2] }] }
        packages := [
          { imports := [], scope := [("Box", .type (.plain 0))], files := [] },
          { imports := [0], scope := [], files := [] }] }
    package := 1
    rules :=
      { terminals := [⟨" (*gopkg.in/yaml.v3.Box).Open\t", "m"⟩], entryPoints := [], ignored := [] }
    handedOn := []
    order := .asFound }

/-- The importing package resolves the name of the method, and the rule marks it. -/
theorem boxing_open_denoted :
    (boxing.program.resolve? boxing.package
      { path := "gopkg.in/yaml.v3", receiver := some "Box", name := "Open" }).map Method.func = some 0 ∧
    boxing.build.index.markers.of 0 = { kind := .terminal, message := .ofString "m" } := by
  have distinct : boxing.program.DistinctPaths 1 :=
    Program.distinctPaths_of_nodup (by decide) (by decide) (by decide)
  have wellDeclared : boxing.program.decls.WellDeclared := ⟨by decide +kernel, by decide +kernel⟩
  have wellNamed : boxing.program.decls.WellNamed := ⟨by decide +kernel, by decide +kernel⟩
  have sees : boxing.program.Sees 1 0 := .single ⟨_, rfl, List.mem_singleton_self _⟩
  have receiver : boxing.program.decls.ReceiverOf 0 6 :=
    .pointer (.here fun _ => nofun) rfl (.instantiated (.here fun _ => nofun) rfl)
  have declares : boxing.program.Declares 0 0 :=
    .method rfl rfl rfl rfl receiver rfl (by decide +kernel) rfl
  obtain ⟨-, denoted, marked⟩ := IndexInput.canonical_name_denotes distinct wellDeclared wellNamed sees
    (by decide +kernel) declares (by decide +kernel)
  have name : boxing.program.decls.qualifiedName 0 =
      { path := "gopkg.in/yaml.v3", receiver := some "Box", name := "Open" } := by decide +kernel
  rw [name] at denoted marked
  refine ⟨by rw [denoted]; rfl, marked [] .terminal _ [] rfl ?_ (by decide +kernel) (List.forall_mem_nil _)⟩
  exact ⟨[' '], ['\t'], _, Or.inr rfl, List.forall_mem_singleton.mpr rfl, List.forall_mem_singleton.mpr rfl,
    by decide +kernel⟩

end Sample

end Fluent
