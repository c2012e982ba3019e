import Fluent.Proofs.Index.Eligibility
import Fluent.Proofs.Types.Identity

/-! Methods of generic types that redeclare a terminal method.

A method of a generic type is written in type parameters of its own, and a method that the type has
from an embedded field in those of the type. The two are compared as they are written. So a method
is found to redeclare a terminal one if its own type parameters do not matter to its signature, and
it is not if one of them stands there in the open. -/

set_option autoImplicit false

namespace Fluent

namespace Declarations

variable {decls : Declarations} {func : FuncId} {function : Function} {owner : NamedId}
  {decl : NamedDecl} {base : Method}

/-- A method of a declared struct type redeclares a method that an embedded field has: it has the
same name, and the same signature once its own type parameters are taken for those of the type. -/
structure Redeclaration (decls : Declarations) (func : FuncId) (function : Function) (owner : NamedId)
    (decl : NamedDecl) (base : Method) : Prop where
  known : decls.functions[func]? = some function
  owned : decls.receiverBase? func = some owner
  declared : decls.named? owner = some decl
  found : ∃ package fields field, decls.underlying (.plain owner) = .struct package fields ∧
    field ∈ fields ∧ field.embedded = true ∧
    decls.method? field.type function.package function.name = some base
  identical : ∃ own, decls.methodAt (decl.typeParams.map Ty.plain) func = some own ∧
    decls.identicalMethods base own = true

namespace Redeclaration

variable (redeclares : decls.Redeclaration func function owner decl base)

include redeclares

theorem isInterface_owner : decls.isInterface (.plain owner) = false := by
  obtain ⟨package, fields, field, form, -⟩ := redeclares.found
  simp [isInterface, form, Shape.isInterface]

theorem distinct (received : decls.WellReceived) (acyclic : decls.AcyclicEmbedding) :
    base.func ≠ func := by
  intro same
  obtain ⟨package, fields, field, form, listed, embedded, found⟩ := redeclares.found
  have owned := redeclares.owned
  rw [← same] at owned
  rcases received.receiver_of_embedded form listed embedded found owned with interface | embeds
  · rw [redeclares.isInterface_owner] at interface
    cases interface
  · exact acyclic owner (.single embeds)

theorem mem_redeclared {rules : TerminalRules} (same : rules.markers.decls = decls)
    (received : decls.WellReceived) (acyclic : decls.AcyclicEmbedding)
    (stands : decls.identicalMethods base (.plain func) = true) : base.func ∈ rules.redeclared func := by
  subst same
  obtain ⟨package, fields, field, form, listed, embedded, found⟩ := redeclares.found
  exact TerminalRules.mem_redeclared.mpr ⟨function, owner, package, fields, field, base, redeclares.known,
    redeclares.owned, form, listed, embedded, found, redeclares.distinct received acyclic, stands, rfl⟩

theorem identical_replacing (parameterized : decls.WellParameterized) :
    decls.identicalMethods base
      ⟨func, replacing function.receiverParams decl.typeParams⟩ = true := by
  obtain ⟨own, at_eq, identical⟩ := redeclares.identical
  have counts := parameterized.counted redeclares.known redeclares.owned redeclares.isInterface_owner
    redeclares.declared
  simp only [methodAt, redeclares.known, Option.map_some, List.length_map, counts, if_true,
    Option.some.injEq] at at_eq
  rw [← at_eq] at identical
  exact identical

/-- A method is compared as it is meant if its signature does without its own type parameters. -/
theorem identical_of_unmentioned (parameterized : decls.WellParameterized)
    (unmentioned : ∀ entry ∈ decls.componentsOf function, ∀ param ∈ function.receiverParams,
      ¬ decls.Mentions entry param) : decls.identicalMethods base (.plain func) = true := by
  refine identicalMethods_of_unmentioned redeclares.known parameterized.aliasesEnd ?_
    (redeclares.identical_replacing parameterized)
  intro entry component item member
  exact unmentioned entry component item.1 (List.of_mem_zip member).1

/-- A type parameter that stands in the signature tells the method from the one it redeclares: with
the type parameters of the type in their places, the method's own do not show. -/
theorem not_identical_of_standsIn (parameterized : decls.WellParameterized) {entry param : TypeId}
    (component : entry ∈ decls.componentsOf function) (member : param ∈ function.receiverParams)
    (stands : decls.StandsIn param entry) : decls.identicalMethods base (.plain func) = false := by
  by_contra asWritten
  obtain ⟨other, found, same⟩ := shows_iff_of_identicalMethods redeclares.known
    (eq_true_of_ne_false asWritten) (redeclares.identical_replacing parameterized)
  have ends := parameterized.aliasesEnd
  have apart := parameterized.receivers function (List.mem_of_getElem? redeclares.known) param member
  have others := typeParams_subset_of_function found
  have declared := typeParams_subset_of_declared redeclares.declared
  have matched : decls.Renames (matching function other) :=
    renames_replacing fun param listed => parameterized.params param (others listed)
  have replaced : decls.Renames (replacing function.receiverParams decl.typeParams) :=
    renames_replacing fun param listed => parameterized.params param (declared listed)
  have shown : decls.Shows param (decls.resolve ⟨entry, matching function other ++ []⟩) := by
    rw [List.append_nil]
    refine ends.shows stands matched fun given => apart ?_
    exact typeParams_subset_of_function redeclares.known (mem_of_given_replacing given)
  refine ends.not_shows (parameterized.unwritten param) (matched.append replaced) ?_ (fun _ => ?_)
    ((same entry component param).mp shown)
  · exact List.forall_mem_append.mpr ⟨ne_plain_of_mem_replacing fun listed => apart (others listed),
      ne_plain_of_mem_replacing fun listed => apart (declared listed)⟩
  · have counts := parameterized.counted redeclares.known redeclares.owned redeclares.isInterface_owner
      redeclares.declared
    rw [Given, List.map_append]
    exact List.mem_append_right _ (given_replacing counts member)

end Redeclaration

end Declarations

namespace IndexInput

variable (input : IndexInput)

/-- When a method of a struct type is terminal that redeclares a terminal method of an embedded field.
It is so if the two have the same signature as they are written, and else only for other reasons. A
signature that does not mention the method's own type parameters is the same as it is written, in
particular that of a method of a type that is not generic. A signature in which one of them stands
outside of interfaces is not. -/
theorem redeclaration_terminal_iff (received : input.program.decls.WellReceived)
    (acyclic : input.program.decls.AcyclicEmbedding)
    (parameterized : input.program.decls.WellParameterized) (questions others : List Question)
    {func : FuncId} {function : Function} {owner : NamedId} {decl : NamedDecl} {base : Method}
    (redeclares : input.program.decls.Redeclaration func function owner decl base)
    (terminal : (input.build.index.rules.isTerminal base.func (input.memoAfter questions)).1 = true) :
    let decls := input.program.decls
    let rules := input.build.index.rules
    let memo := input.memoAfter others
    let asWritten := decls.identicalMethods base (.plain func) = true
    ((rules.isTerminal func memo).1 = true ↔ asWritten ∨ (rules.markers.of func).kind = .terminal ∨
      (∃ other ∈ rules.redeclared func, (rules.isTerminal other memo).1 = true) ∨
      rules.implementsTerminal func = true) ∧
    ((∀ entry ∈ decls.componentsOf function, ∀ param ∈ function.receiverParams,
      ¬ decls.Mentions entry param) → asWritten) ∧
    ((∃ entry ∈ decls.componentsOf function, ∃ param ∈ function.receiverParams,
      decls.StandsIn param entry) → ¬ asWritten) := by
  intro decls rules memo asWritten
  have settled : input.terminalRules.Settled [] :=
    @TerminalRules.settled_of_acyclicEmbedding input.terminalRules received acyclic []
  have answer (questions : List Question) (func : FuncId) :
      (rules.isTerminal func (input.memoAfter questions)).1 = true ↔ rules.Terminal [] func := by
    rw [TerminalRules.isTerminal_iff]
    exact (input.faithful_memoAfter settled questions).same func
  refine ⟨?_, redeclares.identical_of_unmentioned parameterized, ?_⟩
  · simp only [memo, answer]
    rw [TerminalRules.Terminal.of_unknown rfl]
    refine ⟨Or.inr, fun reasons => reasons.elim (fun same => Or.inr (Or.inl ?_)) id⟩
    exact ⟨base.func, redeclares.mem_redeclared rfl received acyclic same,
      (answer questions base.func).mp terminal⟩
  · rintro ⟨entry, component, param, member, stands⟩ same
    exact Bool.eq_false_iff.mp
      (redeclares.not_identical_of_standsIn parameterized component member stands) same

end IndexInput

namespace Sample

/-- A package with two generic structs. `Base` has the terminal methods `End`, which returns a value of
its type parameter, and `Close`, which takes a function. `Box` embeds `Base` with its own type
parameter, and redeclares both. -/
def boxed : IndexInput :=
  { program :=
      { decls :=
          { packagePaths := ["app"]
            types := #[
              .declared { name := "Base", package := some 0, underlying := 2, methods := [0, 1],
                          typeParams := [4] },
              .declared { name := "Box", package := some 0, underlying := 3, methods := [2, 3],
                          typeParams := [5] },
              .literal (.struct (some 0) []),
              .literal (.struct (some 0) [⟨"Base", true, "", 9⟩]),
              .param 8,
              .param 8,
              .param 8,
              .param 8,
              .literal (.interface false [] []),
              .instantiated 0 [5],
              .instantiated 0 [6],
              .literal (.pointer 10),
              .instantiated 1 [7],
              .literal (.pointer 12),
              .literal (.func { params := [], results := [6], variadic := false }),
              .literal (.func { params := [], results := [7], variadic := false }),
              .literal (.func { params := [], results := [], variadic := false }),
              .param 8,
              .param 8,
              .instantiated 0 [17],
              .literal (.pointer 19),
              .instantiated 1 [18],
              .literal (.pointer 21),
              .literal (.func { params := [16], results := [], variadic := false })]
            functions := [
              { name := "End", package := some 0, type := 14, receiver := some 11, typeParams := [],
                receiverParams := [6] },
              { name := "Close", package := some 0, type := 23, receiver := some 20, typeParams := [],
                receiverParams := [17] },
              { name := "End", package := some 0, type := 15, receiver := some 13, typeParams := [],
                receiverParams := [7] },
              { name := "Close", package := some 0, type := 23, receiver := some 22, typeParams := [],
                receiverParams := [18] }] }
        packages := [
          { imports := []
            scope := []
            files := [
              { packageName := "app"
                start := 0
                stop := 90
                lines := LineTable.ofStarts? 90 [0]
                comments := []
                doc := []
                decls := [
                  .funcDecl ⟨20, 30, none⟩ (some 0) [⟨10, "//endcheck:end"⟩] none none,
                  .funcDecl ⟨50, 60, none⟩ (some 1) [⟨40, "//endcheck:end"⟩] none none] }] }] }
    package := 0
    rules := .none
    handedOn := []
    order := .asFound }

theorem boxed_acyclic : boxed.program.decls.AcyclicEmbedding :=
  @Declarations.AcyclicEmbedding.of_flat _ 0 (by decide +kernel)

theorem boxed_wellParameterized : boxed.program.decls.WellParameterized where
  aliases := by decide +kernel
  literals := by decide +kernel
  params := by decide +kernel
  receivers := by decide +kernel
  counts := by decide +kernel

theorem boxed_redeclares {func : FuncId} {function : Function} {own : Method} {inherited : FuncId}
    (known : boxed.program.decls.functions[func]? = some function)
    (owned : boxed.program.decls.receiverBase? func = some 1)
    (filled : boxed.program.decls.methodAt [.plain 5] func = some own)
    (compared : ((boxed.program.decls.method? (.plain 9) function.package function.name).any fun base =>
      base.func = inherited && boxed.program.decls.identicalMethods base own) = true) :
    ∃ decl base, boxed.program.decls.Redeclaration func function 1 decl base ∧ base.func = inherited := by
  obtain ⟨base, found, fits⟩ := (Option.any_eq_true _ _).mp compared
  obtain ⟨same, identical⟩ := Bool.and_eq_true_iff.mp fits
  refine ⟨_, base, ⟨known, owned, rfl, ?_, own, filled, identical⟩, of_decide_eq_true same⟩
  exact ⟨some 0, [⟨"Base", true, "", .plain 9⟩], _, rfl, List.mem_singleton.mpr rfl, rfl, found⟩

/-- `Close` of the box is found to redeclare the terminal method of the base, since it does without its
type parameter. `End` of the box returns a value of its type parameter, and is not. -/
theorem boxed_close_terminal :
    boxed.program.decls.WellReceived ∧ boxed.program.decls.AcyclicEmbedding ∧
      boxed.program.decls.WellParameterized ∧
      (boxed.build.index.rules.isTerminal 1 (boxed.memoAfter [])).1 = true ∧
      (boxed.build.index.rules.isTerminal 3 (boxed.memoAfter [.facts 1])).1 = true ∧
      (boxed.build.index.rules.isTerminal 2 (boxed.memoAfter [.facts 1])).1 = false := by
  have received : boxed.program.decls.WellReceived := by decide +kernel
  obtain ⟨_, close, redeclaresClose, closes⟩ := @boxed_redeclares 3 _ _ 1 rfl rfl rfl (by decide +kernel)
  obtain ⟨_, finish, redeclaresEnd, ends⟩ := @boxed_redeclares 2 _ _ 0 rfl rfl rfl (by decide +kernel)
  have closeTerminal : (boxed.build.index.rules.isTerminal close.func (boxed.memoAfter [])).1 = true := by
    rw [closes]
    decide +kernel
  have endTerminal : (boxed.build.index.rules.isTerminal finish.func (boxed.memoAfter [])).1 = true := by
    rw [ends]
    decide +kernel
  obtain ⟨closing, unmentioned, -⟩ := boxed.redeclaration_terminal_iff received boxed_acyclic
    boxed_wellParameterized [] [.facts 1] redeclaresClose closeTerminal
  obtain ⟨ending, -, stands⟩ := boxed.redeclaration_terminal_iff received boxed_acyclic
    boxed_wellParameterized [] [.facts 1] redeclaresEnd endTerminal
  have different := stands ⟨7, by decide +kernel, 7, by decide +kernel, .itself (by decide +kernel)⟩
  refine ⟨received, boxed_acyclic, boxed_wellParameterized, by decide +kernel,
    closing.mpr (Or.inl (unmentioned (by decide +kernel))), ?_⟩
  have others : ¬ ((boxed.build.index.rules.markers.of 2).kind = .terminal ∨
      (∃ other ∈ boxed.build.index.rules.redeclared 2,
        (boxed.build.index.rules.isTerminal other (boxed.memoAfter [.facts 1])).1 = true) ∨
      boxed.build.index.rules.implementsTerminal 2 = true) := by decide +kernel
  exact Bool.eq_false_iff.mpr fun yes => (ending.mp yes).elim different others

/-- `End` of the box redeclares the terminal method of the base, with the same signature once its type
parameter is taken for that of the box, and is not terminal. -/
theorem boxed_end_not_terminal :
    boxed.program.decls.WellReceived ∧ boxed.program.decls.AcyclicEmbedding ∧
      boxed.program.decls.WellParameterized ∧
      ∃ function decl base, boxed.program.decls.Redeclaration 2 function 1 decl base ∧
        (boxed.build.index.rules.isTerminal base.func (boxed.memoAfter [])).1 = true ∧
        (boxed.build.index.rules.isTerminal 2 (boxed.memoAfter [])).1 = false := by
  obtain ⟨decl, base, redeclares, same⟩ := @boxed_redeclares 2 _ _ 0 rfl rfl rfl (by decide +kernel)
  refine ⟨by decide +kernel, boxed_acyclic, boxed_wellParameterized, _, decl, base, redeclares, ?_,
    by decide +kernel⟩
  rw [same]
  decide +kernel

end Sample

end Fluent
