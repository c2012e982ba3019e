import Fluent.Proofs.Index.Provenance
import Fluent.Proofs.QualifiedName

/-! Which rule marks a function.

The rules count in the order of their sections, and the first one for a name counts alone. A
function gets its marker from a directive or, without one, from the first rule that goes by the
function's own name. Apart from that, each rule is resolved to what its name denotes, and that can
be a method which the named type only takes over from another one. Such a method has a name of its
own, so the rule acts on it without marking it. -/

set_option autoImplicit false

namespace Fluent

def Rule.names (rule : Rule) (name : QualifiedName) : Bool :=
  match QualifiedName.parse rule.func with
  | .ok other => other = name
  | .error _ => false

theorem Rule.names_iff {rule : Rule} {name : QualifiedName} :
    rule.names name = true ↔ QualifiedName.parse rule.func = .ok name := by
  unfold names
  cases QualifiedName.parse rule.func <;> simp

def Rule.marker (kind : MarkerKind) (rule : Rule) : Marker :=
  { kind, message := .ofString rule.message }

/-- Rules are added behind those present, so what is found first is found first in the whole. -/
theorem lookup_addRules (kind : MarkerKind) (ruled : List (QualifiedName × Marker)) (rules : List Rule)
    (name : QualifiedName) :
    (addRules kind ruled rules).lookup name =
      (ruled.lookup name).or ((rules.find? (·.names name)).map (Rule.marker kind)) := by
  unfold addRules
  induction rules generalizing ruled with
  | nil => simp
  | cons rule rules ih =>
    rw [List.foldl_cons, ih, List.find?_cons]
    unfold Rule.names
    cases QualifiedName.parse rule.func with
    | error _ => rfl
    | ok other =>
      by_cases same : other = name
      · subst same
        cases known : ruled.lookup other with
        | some marker => simp [known]
        | none => simp [known, List.lookup_append, Rule.marker]
      · have ne : (name == other) = false := beq_false_of_ne (Ne.symm same)
        by_cases known : (ruled.lookup other).isSome = true <;>
          simp [known, same, List.lookup_append, List.lookup_cons, ne]

namespace RuleSet

/-- The first rule for a name, with the kind of its marker. -/
def ruleFor? (rules : RuleSet) (name : QualifiedName) : Option (MarkerKind × Rule) :=
  rules.byKind.find? fun item => item.2.names name

/-- The marker that rules give to the functions with a name. -/
def markerFor? (rules : RuleSet) (name : QualifiedName) : Option Marker :=
  (rules.ruleFor? name).map fun item => item.2.marker item.1

theorem lookup_markers (rules : RuleSet) (name : QualifiedName) :
    rules.markers.lookup name = rules.markerFor? name := by
  rw [markers, lookup_addRules, lookup_addRules, lookup_addRules]
  simp only [markerFor?, ruleFor?, byKind, List.find?_append, List.find?_map, List.lookup_nil, Option.none_or,
    Function.comp_def, Option.map_or, Option.map_map, Option.or_assoc]

theorem ruleFor?_eq_some {rules : RuleSet} {before after : List (MarkerKind × Rule)}
    {item : MarkerKind × Rule} {name : QualifiedName} (listed : rules.byKind = before ++ item :: after)
    (read : QualifiedName.parse item.2.func = .ok name)
    (first : ∀ earlier ∈ before, QualifiedName.parse earlier.2.func ≠ .ok name) :
    rules.ruleFor? name = some item := by
  have none : before.find? (fun item => item.2.names name) = .none :=
    List.find?_eq_none.mpr fun earlier member named => first earlier member (Rule.names_iff.mp named)
  rw [ruleFor?, listed, List.find?_append, none, List.find?_cons, Rule.names_iff.mpr read]
  rfl

theorem markerFor?_of_no_path {rules : RuleSet} {name : QualifiedName} (none : name.path = "") :
    rules.markerFor? name = .none := by
  rw [markerFor?, ruleFor?, List.find?_eq_none.mpr]
  · rfl
  · intro item _ named
    exact QualifiedName.path_ne_of_parse (Rule.names_iff.mp named) none

theorem mem_byKind {rules : RuleSet} {kind : MarkerKind} {rule : Rule} :
    (kind, rule) ∈ rules.byKind ↔ kind = .terminal ∧ rule ∈ rules.terminals ∨
      kind = .entryPoint ∧ rule ∈ rules.entryPoints ∨ kind = .ignore ∧ rule ∈ rules.ignored := by
  simp [byKind, eq_comm, and_comm]

end RuleSet

namespace IndexInput

variable {input : IndexInput}

/-- The marker that a directive gives to a function: one of the package itself, or one that another
package has handed on. -/
def directed? (input : IndexInput) (func : FuncId) : Option Marker :=
  (input.collected.markers.lookup func).or
    ((input.program.decls.functionPackage func).bind fun package =>
      if package = input.package then none else input.handedOn.lookup func)

/-- What decides on the marker of a function: its directive or, without one, the rules for its own
name. -/
def decisive? (input : IndexInput) (func : FuncId) : Option Marker :=
  (input.directed? func).or (input.rules.markerFor? (input.program.decls.qualifiedName func))

theorem markers_of_eq (input : IndexInput) (func : FuncId) :
    input.markers.of func = (input.decisive? func).getD .unmarked := by
  have ruled : input.markers.ruled.lookup (input.program.decls.qualifiedName func) =
      input.rules.markerFor? (input.program.decls.qualifiedName func) := input.rules.lookup_markers _
  have declared : input.markers.declared = input.collected.markers := rfl
  have decls : input.markers.decls = input.program.decls := rfl
  have package : input.markers.package = input.package := rfl
  have imported : input.markers.imported = input.handedOn := rfl
  simp only [Markers.of, decisive?, directed?, declared, decls, package, imported, ruled]
  cases input.collected.markers.lookup func with
  | some marker => rfl
  | none =>
    cases owner : input.program.decls.functionPackage func with
    | none => simp [RuleSet.markerFor?_of_no_path (Markers.qualifiedName_of_no_package owner)]
    | some package =>
      simp only [Option.none_or, Option.bind_some]
      cases (if package = input.package then none else input.handedOn.lookup func) <;> rfl

theorem mem_ruledFunctions {rules : List Rule} {rule : Rule} {name : QualifiedName} {method : Method}
    (listed : rule ∈ rules) (read : QualifiedName.parse rule.func = .ok name)
    (denoted : input.program.resolve? input.package name = some method) :
    method ∈ input.ruledFunctions rules :=
  List.mem_filterMap.mpr ⟨rule, listed, by rw [read]; exact denoted⟩

theorem kind_eq_iff {kind : MarkerKind} (marked : kind ≠ .none) (func : FuncId) :
    (input.markers.of func).kind = kind ↔ ∃ marker, input.decisive? func = some marker ∧ marker.kind = kind := by
  rw [markers_of_eq]
  cases input.decisive? func with
  | none => simp [Marker.unmarked, Ne.symm marked]
  | some marker => simp

/-- A rule denotes a function that has no directive and is denoted by no earlier rule of the same name.
It marks the function exactly if it goes by the function's own name, or if the first rule that does
gives the same marker. All the same, a function that a rule for entry points denotes is one of those
that stages start from, and a method of an interface that a rule for terminal methods denotes is one
of those that others implement. These have the kind of the rule exactly if what decides on their
markers has it. -/
theorem rule_takes_effect_iff {before after : List (MarkerKind × Rule)} {kind : MarkerKind} {rule : Rule}
    {name : QualifiedName} {method : Method} (listed : input.rules.byKind = before ++ (kind, rule) :: after)
    (read : QualifiedName.parse rule.func = .ok name)
    (denoted : input.program.resolve? input.package name = some method) :
    (input.directed? method.func = none →
      (∀ earlier ∈ before, QualifiedName.parse earlier.2.func ≠ .ok name) →
      (input.build.index.markers.of method.func = rule.marker kind ↔
        input.program.decls.qualifiedName method.func = name ∨
          input.rules.markerFor? (input.program.decls.qualifiedName method.func) =
            some (rule.marker kind))) ∧
    (kind = .entryPoint → method ∈ input.entryPoints ∧
      ((input.build.index.markers.entryPoint? method.func).isSome = true ↔
        ∃ marker, input.decisive? method.func = some marker ∧ marker.kind = .entryPoint)) ∧
    (kind = .terminal → input.program.decls.isPlainInterfaceMethod method.func = true →
      method ∈ input.build.index.rules.interfaceTerminals ∧
      ((input.build.index.markers.of method.func).kind = .terminal ↔
        ∃ marker, input.decisive? method.func = some marker ∧ marker.kind = .terminal)) := by
  have member : (kind, rule) ∈ input.rules.byKind := by simp [listed]
  have marked : kind ≠ .none := RuleSet.kind_of_mem_byKind member
  refine ⟨fun undirected first => ?_, ?_, ?_⟩
  · change input.markers.of method.func = _ ↔ _
    rw [markers_of_eq, decisive?, undirected, Option.none_or]
    constructor
    · intro given
      cases ruled : input.rules.markerFor? (input.program.decls.qualifiedName method.func) with
      | none =>
        rw [ruled] at given
        exact (marked (congrArg Marker.kind given).symm).elim
      | some marker =>
        rw [ruled] at given
        exact Or.inr (congrArg some given)
    · rintro (own | ruled)
      · rw [own, RuleSet.markerFor?, RuleSet.ruleFor?_eq_some listed read first]
        rfl
      · rw [ruled]
        rfl
  · rintro rfl
    have rules : rule ∈ input.rules.entryPoints := by simpa using RuleSet.mem_byKind.mp member
    refine ⟨List.mem_append_right _ (mem_ruledFunctions rules read denoted), ?_⟩
    rw [← kind_eq_iff marked]
    change (input.markers.entryPoint? method.func).isSome = true ↔ _
    simp [Markers.entryPoint?]
  · rintro rfl interface
    have rules : rule ∈ input.rules.terminals := by simpa using RuleSet.mem_byKind.mp member
    refine ⟨List.mem_filter.mpr ⟨?_, interface⟩, kind_eq_iff marked method.func⟩
    exact List.mem_append_right _ (mem_ruledFunctions rules read denoted)

end IndexInput

namespace Sample

/-- A struct `D` that embeds `B` with its method `Begin`, and an interface `K` that takes over `Close`
from `I`. The rules name the methods by `D` and `K`, and one of a type `T` by its own name. -/
def promoting : IndexInput :=
  { program :=
      { decls :=
          { packagePaths := ["test"]
            types := #[
              .declared { name := "S", package := some 0, underlying := 7, methods := [0], typeParams := [] },
              .declared { name := "T", package := some 0, underlying := 7, methods := [1], typeParams := [] },
              .declared { name := "B", package := some 0, underlying := 7, methods := [2], typeParams := [] },
              .declared { name := "D", package := some 0, underlying := 8, methods := [], typeParams := [] },
              .declared { name := "I", package := some 0, underlying := 9, methods := [], typeParams := [] },
              .declared { name := "K", package := some 0, underlying := 10, methods := [], typeParams := [] },
              .declared { name := "J", package := some 0, underlying := 7, methods := [4], typeParams := [] },
              .literal (.struct none []),
              .literal (.struct (some 0) [⟨"B", true, "", 2⟩]),
              .literal (.interface false [3] []),
              .literal (.interface false [] [4]),
              .literal (.pointer 0),
              .literal (.pointer 1),
              .literal (.pointer 2),
              .literal (.pointer 6),
              .literal (.func { params := [], results := [12], variadic := false }),
              .literal (.func { params := [], results := [], variadic := false }),
              .literal (.func { params := [], results := [11], variadic := false })]
            functions := [
              { name := "Next", package := some 0, type := 15, receiver := some 11, typeParams := [],
                receiverParams := [] },
              { name := "End", package := some 0, type := 16, receiver := some 12, typeParams := [],
                receiverParams := [] },
              { name := "Begin", package := some 0, type := 17, receiver := some 13, typeParams := [],
                receiverParams := [] },
              { name := "Close", package := some 0, type := 16, receiver := some 4, typeParams := [],
                receiverParams := [] },
              { name := "Close", package := some 0, type := 16, receiver := some 14, typeParams := [],
                receiverParams := [] }] }
        packages := [
          { imports := []
            scope := [("S", .type (.plain 0)), ("T", .type (.plain 1)), ("B", .type (.plain 2)),
              ("D", .type (.plain 3)), ("I", .type (.plain 4)), ("K", .type (.plain 5)),
              ("J", .type (.plain 6))]
            files := [] }] }
    package := 0
    rules :=
      { terminals := [⟨"(test.T).End", ""⟩, ⟨"(test.K).Close", ""⟩]
        entryPoints := [⟨"(test.D).Begin", "m"⟩]
        ignored := [] }
    handedOn := []
    order := .asFound }

/-- The rule that goes by the type of its method takes effect. -/
theorem promoting_own_rule :
    (∃ method, promoting.program.resolve? 0 { path := "test", receiver := some "T", name := "End" } =
      some method ∧ method.func = 1) ∧
    promoting.directed? 1 = none ∧
    promoting.build.index.markers.of 1 = { kind := .terminal, message := [] } := by
  have denoted : (promoting.program.resolve? 0 { path := "test", receiver := some "T", name := "End" }).map
      Method.func = some 1 := by decide +kernel
  have undirected : promoting.directed? 1 = none := by decide +kernel
  obtain ⟨method, denoted, func⟩ := Option.map_eq_some_iff.mp denoted
  have effect := (@IndexInput.rule_takes_effect_iff promoting [] _ .terminal ⟨"(test.T).End", ""⟩ _ method
    rfl (by decide +kernel) denoted).1
  rw [func] at effect
  exact ⟨⟨method, denoted, func⟩, undirected,
    (effect undirected (List.forall_mem_nil _)).mpr (Or.inl (by decide +kernel))⟩

/-- The rules that go by the types which take over their methods are valid and denote methods without
directives, but these stay unmarked. The first of them is an entry point that stages start from, and
the second a terminal method that others implement. -/
theorem promoted_rules_lost :
    promoting.rules.errors = [] ∧
    (promoting.program.resolve? 0 { path := "test", receiver := some "D", name := "Begin" }).map
      Method.func = some 2 ∧
    (promoting.program.resolve? 0 { path := "test", receiver := some "K", name := "Close" }).map
      Method.func = some 3 ∧
    promoting.directed? 2 = none ∧ promoting.directed? 3 = none ∧
    promoting.build.index.markers.of 2 = .unmarked ∧ promoting.build.index.markers.of 3 = .unmarked ∧
    2 ∈ promoting.entryPoints.map Method.func ∧
    3 ∈ promoting.build.index.rules.interfaceTerminals.map Method.func := by
  decide +kernel

end Sample

end Fluent
