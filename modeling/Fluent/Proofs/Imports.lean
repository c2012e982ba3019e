import Fluent.Program
import Mathlib.Data.List.Nodup
import Mathlib.Logic.Relation

/-! What a package sees: itself and all that it imports, directly or not.

The search for imports goes by paths. Where the packages that are seen have different paths, it
finds them all, so that a name which denotes a function for a package denotes the same function
for every package that sees it. -/

set_option autoImplicit false

namespace Fluent.Program

variable {program : Program} {viewer package other : PackageId}

def Imports (program : Program) (package other : PackageId) : Prop :=
  ∃ found, program.packages[package]? = some found ∧ other ∈ found.imports

def Sees (program : Program) : PackageId → PackageId → Prop :=
  Relation.ReflTransGen program.Imports

/-- Have the packages that a package sees different paths? -/
def DistinctPaths (program : Program) (viewer : PackageId) : Prop :=
  ∀ first second, program.Sees viewer first → program.Sees viewer second →
    program.decls.packagePath first = program.decls.packagePath second → first = second

def Present (program : Program) (package : PackageId) : Prop := package < program.packages.length

/-- Packages of a program that lists no path twice can be told apart by their paths. -/
theorem distinctPaths_of_nodup (nodup : program.decls.packagePaths.Nodup)
    (imports : ∀ found ∈ program.packages, ∀ other ∈ found.imports,
      other < program.decls.packagePaths.length)
    (known : viewer < program.decls.packagePaths.length) : program.DistinctPaths viewer := by
  have within {package : PackageId} (sees : program.Sees viewer package) :
      package < program.decls.packagePaths.length := by
    cases sees with
    | refl => exact known
    | tail _ last =>
      obtain ⟨found, present, listed⟩ := last
      exact imports found (List.mem_of_getElem? present) _ listed
  intro first second left right same
  simp only [Declarations.packagePath, List.getElem?_eq_getElem (within left),
    List.getElem?_eq_getElem (within right), Option.getD_some] at same
  exact nodup.getElem_inj_iff.mp same

theorem collectImports_met {known : List PackageId}
    (met : ∃ other ∈ known, program.decls.packagePath other = program.decls.packagePath package) (fuel : Nat) :
    program.collectImports fuel known package = known := by
  cases fuel with
  | zero => rfl
  | succ fuel => simp only [collectImports, List.any_eq_true, decide_eq_true_eq, met, if_true]

theorem collectImports_missing {known : List PackageId} (missing : program.packages[package]? = none)
    (fuel : Nat) : program.collectImports fuel known package = known := by
  cases fuel with
  | zero => rfl
  | succ fuel => simp only [collectImports, missing, ite_self]

theorem collectImports_new {known : List PackageId} {found : Package}
    (new : ¬ ∃ other ∈ known, program.decls.packagePath other = program.decls.packagePath package)
    (present : program.packages[package]? = some found) (fuel : Nat) :
    program.collectImports (fuel + 1) known package =
      found.imports.foldl (program.collectImports fuel) (known ++ [package]) := by
  simp only [collectImports, List.any_eq_true, decide_eq_true_eq, new, if_false, present]

/-- What can happen to the packages that are known when one is looked at. -/
theorem collectImports_cases (program : Program) (fuel : Nat) (known : List PackageId) (package : PackageId) :
    ((∃ other ∈ known, program.decls.packagePath other = program.decls.packagePath package) ∧
      program.collectImports (fuel + 1) known package = known) ∨
    (program.packages[package]? = none ∧ program.collectImports (fuel + 1) known package = known) ∨
    ((¬ ∃ other ∈ known, program.decls.packagePath other = program.decls.packagePath package) ∧
      ∃ found, program.packages[package]? = some found ∧
        program.collectImports (fuel + 1) known package =
          found.imports.foldl (program.collectImports fuel) (known ++ [package])) := by
  by_cases met : ∃ other ∈ known, program.decls.packagePath other = program.decls.packagePath package
  · exact Or.inl ⟨met, collectImports_met met _⟩
  · cases present : program.packages[package]? with
    | none => exact Or.inr (Or.inl ⟨rfl, collectImports_missing present _⟩)
    | some found => exact Or.inr (Or.inr ⟨met, found, rfl, collectImports_new met present fuel⟩)

theorem seen_of_mem_collectImports (fuel : Nat) {known : List PackageId}
    (seen : ∀ other ∈ known, program.Sees viewer other ∧ program.Present other)
    (sees : program.Sees viewer package) :
    ∀ other ∈ program.collectImports fuel known package,
      program.Sees viewer other ∧ program.Present other := by
  induction fuel generalizing known package with
  | zero => exact seen
  | succ fuel ih =>
    obtain ⟨-, same⟩ | ⟨-, same⟩ | ⟨-, found, present, same⟩ := program.collectImports_cases fuel known package
    · rwa [same]
    · rwa [same]
    · rw [same]
      have first : ∀ other ∈ known ++ [package], program.Sees viewer other ∧ program.Present other := by
        refine List.forall_mem_append.mpr ⟨seen, fun other itself => ?_⟩
        rw [List.mem_singleton.mp itself]
        exact ⟨sees, (List.getElem?_eq_some_iff.mp present).1⟩
      refine List.foldlRecOn (motive := fun current : List PackageId => ∀ other ∈ current,
        program.Sees viewer other ∧ program.Present other) _ _ first fun current seen next imported => ?_
      exact ih seen (sees.tail ⟨found, present, imported⟩)

/-- The packages that are yet to be met. -/
def unmet (program : Program) (known : List PackageId) : List PackageId :=
  (List.range program.packages.length).filter (· ∉ known)

theorem unmet_sublist {known later : List PackageId} (kept : known ⊆ later) :
    (program.unmet later).Sublist (program.unmet known) := by
  apply List.monotone_filter_right
  intro other absent
  simp only [decide_eq_true_eq] at absent ⊢
  exact fun member => absent (kept member)

theorem length_unmet_new {known : List PackageId} (present : program.Present package)
    (new : package ∉ known) :
    (program.unmet (known ++ [package])).length < (program.unmet known).length := by
  have fewer : (program.unmet (known ++ [package])).Sublist (program.unmet known) :=
    unmet_sublist (List.subset_append_left _ _)
  refine Nat.lt_of_le_of_ne fewer.length_le fun same => ?_
  have member : package ∈ program.unmet known :=
    List.mem_filter.mpr ⟨List.mem_range.mpr present, by simpa using new⟩
  rw [← fewer.eq_of_length same] at member
  simp [unmet] at member

/-- A search that has found some packages, and all that the packages it has met import. -/
structure Search (program : Program) (known targets result : List PackageId) : Prop where
  kept : known ⊆ result
  found : ∀ target ∈ targets, program.Present target → target ∈ result
  closed : ∀ other ∈ result, other ∉ known → ∀ next, program.Imports other next →
    program.Present next → next ∈ result

theorem Search.idle {known : List PackageId} (met : program.Present package → package ∈ known) :
    program.Search known [package] known where
  kept := fun _ member => member
  found := List.forall_mem_singleton.mpr met
  closed := fun _ member absent => (absent member).elim

theorem Search.trans {known targets middle others result : List PackageId}
    (first : program.Search known targets middle) (second : program.Search middle others result) :
    program.Search known (targets ++ others) result where
  kept := fun _ member => second.kept (first.kept member)
  found := List.forall_mem_append.mpr
    ⟨fun target member present => second.kept (first.found target member present), second.found⟩
  closed := by
    intro other member absent next imports present
    by_cases before : other ∈ middle
    · exact second.kept (first.closed other before absent next imports present)
    · exact second.closed other member before next imports present

/-- A search that goes on with the imports of a new package. -/
theorem Search.enter {known result : List PackageId} {found : Package}
    (present : program.packages[package]? = some found)
    (search : program.Search (known ++ [package]) found.imports result) :
    program.Search known [package] result where
  kept := fun _ member => search.kept (List.mem_append_left _ member)
  found := List.forall_mem_singleton.mpr fun _ => search.kept (by simp)
  closed := by
    intro other member absent next imports there
    by_cases itself : other = package
    · subst itself
      obtain ⟨same, isSame, listed⟩ := imports
      cases present.symm.trans isSame
      exact search.found next listed there
    · exact search.closed other member (by simp [absent, itself]) next imports there

/-- With enough fuel, the search meets all imports of what it meets. -/
theorem collectImports_search (distinct : program.DistinctPaths viewer) {fuel : Nat}
    {known : List PackageId} (seen : ∀ other ∈ known, program.Sees viewer other ∧ program.Present other)
    (sees : program.Sees viewer package) (enough : (program.unmet known).length ≤ fuel) :
    program.Search known [package] (program.collectImports fuel known package) := by
  induction fuel generalizing known package with
  | zero =>
    refine .idle fun present => ?_
    by_contra new
    have fewer := length_unmet_new present new
    omega
  | succ fuel ih =>
    obtain ⟨⟨other, member, path⟩, same⟩ | ⟨missing, same⟩ | ⟨new, found, present, same⟩ :=
      program.collectImports_cases fuel known package
    · rw [same]
      exact .idle fun _ => distinct other package (seen other member).1 sees path ▸ member
    · rw [same]
      exact .idle fun present => absurd present (Nat.not_lt.mpr (List.getElem?_eq_none_iff.mp missing))
    · rw [same]
      have there : program.Present package := (List.getElem?_eq_some_iff.mp present).1
      have fewer := length_unmet_new there fun member => new ⟨package, member, rfl⟩
      have first : ∀ other ∈ known ++ [package], program.Sees viewer other ∧ program.Present other :=
        List.forall_mem_append.mpr ⟨seen, List.forall_mem_singleton.mpr ⟨sees, there⟩⟩
      -- Each import is searched from what those before it have left.
      have fold (imports : List PackageId) (within : imports ⊆ found.imports) (current : List PackageId)
          (seen : ∀ other ∈ current, program.Sees viewer other ∧ program.Present other)
          (enough : (program.unmet current).length ≤ fuel) :
          program.Search current imports (imports.foldl (program.collectImports fuel) current) := by
        induction imports generalizing current with
        | nil =>
          exact ⟨fun _ member => member, fun _ member => (nomatch member),
            fun _ member absent => (absent member).elim⟩
        | cons target imports rest =>
          obtain ⟨isImport, within⟩ := List.cons_subset.mp within
          have sees := sees.tail ⟨found, present, isImport⟩
          have search := ih seen sees enough
          refine search.trans (rest within _ (seen_of_mem_collectImports fuel seen sees) ?_)
          exact Nat.le_trans (unmet_sublist search.kept).length_le enough
      exact .enter present (fold found.imports (fun _ member => member) _ first (by omega))

theorem mem_collectImports (distinct : program.DistinctPaths viewer) (sees : program.Sees viewer package)
    (present : program.Present package) :
    package ∈ program.collectImports program.packages.length [] viewer := by
  have enough : (program.unmet []).length ≤ program.packages.length := by
    have bounded := List.length_filter_le (fun other => decide (other ∉ ([] : List PackageId)))
      (List.range program.packages.length)
    rwa [List.length_range] at bounded
  have search := collectImports_search distinct (List.forall_mem_nil _) .refl enough
  induction sees with
  | refl => exact search.found viewer (List.mem_singleton_self _) present
  | tail _ imports ih =>
    obtain ⟨found, there, listed⟩ := imports
    have before := ih (List.getElem?_eq_some_iff.mp there).1
    exact search.closed _ before List.not_mem_nil _ ⟨found, there, listed⟩ present

theorem seen_of_visiblePackage? {path : String} (found : program.visiblePackage? viewer path = some other) :
    program.Sees viewer other ∧ program.Present other ∧ program.decls.packagePath other = path := by
  obtain ⟨sees, present⟩ := seen_of_mem_collectImports program.packages.length (List.forall_mem_nil _)
    .refl other (List.mem_of_find?_eq_some found)
  exact ⟨sees, present, by simpa using List.find?_some found⟩

/-- A package is found by its path among those that are seen. -/
theorem visiblePackage?_path (distinct : program.DistinctPaths viewer)
    (sees : program.Sees viewer package) (present : program.Present package) :
    program.visiblePackage? viewer (program.decls.packagePath package) = some package := by
  have member := mem_collectImports distinct sees present
  cases first : program.visiblePackage? viewer (program.decls.packagePath package) with
  | none =>
    have absent := List.find?_eq_none.mp first package member
    simp at absent
  | some met =>
    obtain ⟨seen, -, there⟩ := seen_of_visiblePackage? first
    rw [distinct met package seen sees there]

/-- A path means the same to a package and to those that see it. -/
theorem visiblePackage?_of_sees (distinct : program.DistinctPaths viewer)
    (sees : program.Sees viewer package) {path : String}
    (found : program.visiblePackage? package path = some other) :
    program.visiblePackage? viewer path = some other := by
  obtain ⟨within, present, rfl⟩ := seen_of_visiblePackage? found
  exact visiblePackage?_path distinct (sees.trans within) present

theorem resolve?_of_sees (distinct : program.DistinctPaths viewer) (sees : program.Sees viewer package)
    {name : QualifiedName} {method : Method} (found : program.resolve? package name = some method) :
    program.resolve? viewer name = some method := by
  obtain ⟨owner, visible, rest⟩ := Option.bind_eq_some_iff.mp found
  rw [resolve?, visiblePackage?_of_sees distinct sees visible]
  exact rest

end Fluent.Program
