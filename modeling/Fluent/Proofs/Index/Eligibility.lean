import Fluent.Proofs.Index.Collect
import Fluent.Proofs.Index.Stages

/-! Which types are builders.

A declared type is a builder if it has a terminal method, or if it lies on a way from the result
of an entry point to a type with a terminal method. Where no struct embeds itself by way of
others, no method redeclares itself that way either. Then all methods settle, and this is so
after any history of questions. -/

set_option autoImplicit false

namespace Fluent

namespace TerminalRules

variable {rules : TerminalRules} {func other third : FuncId}

/-- The receiver of a method that redeclares another one is a struct. It embeds the receiver of
the other one, unless this is a method of an interface. -/
theorem Redeclares.receiver (received : rules.markers.decls.WellReceived)
    (redeclares : rules.Redeclares func other) :
    ∃ outer package fields, rules.markers.decls.receiverBase? func = some outer ∧
      rules.markers.decls.underlying (.plain outer) = .struct package fields ∧
      ∀ inner, rules.markers.decls.receiverBase? other = some inner →
        rules.markers.decls.isInterface (.plain inner) = true ∨
          rules.markers.decls.EmbedsDeclared outer inner := by
  obtain ⟨_, outer, package, fields, field, method, -, owner, form, listed, embedded, found, -, -, rfl⟩ :=
    mem_redeclared.mp redeclares
  exact ⟨outer, package, fields, owner, form, fun inner owned =>
    received.receiver_of_embedded form listed embedded found owned⟩

theorem Redeclares.embeds (received : rules.markers.decls.WellReceived)
    (first : rules.Redeclares func other) (second : rules.Redeclares other third) :
    ∃ outer inner, rules.markers.decls.receiverBase? func = some outer ∧
      rules.markers.decls.receiverBase? other = some inner ∧
      rules.markers.decls.EmbedsDeclared outer inner := by
  obtain ⟨outer, -, -, owner, -, below⟩ := first.receiver received
  obtain ⟨inner, package, fields, owned, form, -⟩ := second.receiver received
  refine ⟨outer, inner, owner, owned, (below inner owned).resolve_left ?_⟩
  simp [Declarations.isInterface, form, Shape.isInterface]

theorem embeds_of_redeclarations (received : rules.markers.decls.WellReceived)
    (first : Relation.TransGen rules.Redeclares func other) (second : rules.Redeclares other third) :
    ∃ outer inner, rules.markers.decls.receiverBase? func = some outer ∧
      rules.markers.decls.receiverBase? other = some inner ∧
      Relation.TransGen rules.markers.decls.EmbedsDeclared outer inner := by
  induction first generalizing third with
  | single step =>
    obtain ⟨outer, inner, owner, owned, embeds⟩ := step.embeds received second
    exact ⟨outer, inner, owner, owned, .single embeds⟩
  | tail _ step ih =>
    obtain ⟨outer, middle, owner, between, way⟩ := ih step
    obtain ⟨middle', inner, between', owned, embeds⟩ := step.embeds received second
    cases between.symm.trans between'
    exact ⟨outer, inner, owner, owned, way.tail embeds⟩

theorem settled_of_acyclicEmbedding (received : rules.markers.decls.WellReceived)
    (acyclic : rules.markers.decls.AcyclicEmbedding) (memo : Memo) : rules.Settled memo := by
  -- A round of redeclarations would be one of embeddings.
  have once (func : FuncId) : ¬ Relation.TransGen rules.Redeclares func func := by
    intro round
    obtain ⟨other, step, -⟩ := Relation.TransGen.head'_iff.mp round
    obtain ⟨outer, inner, owner, owned, way⟩ := embeds_of_redeclarations received round step
    cases owner.symm.trans owned
    exact acyclic outer way
  intro func terminal
  exact settles_of_acyclic once (fun _ member => nomatch member) terminal

end TerminalRules

theorem Declarations.base?_of_sameBase {decls : Declarations} {first second : Ty}
    (same : decls.sameBase first second = true) : decls.base? first = decls.base? second := by
  unfold sameBase at same
  split at same
  next left right => rw [left, right, of_decide_eq_true same]
  next => cases same

namespace Index

variable (index : Index) {memo current : Memo}

theorem facts_settled (settled : index.rules.Settled memo)
    (faithful : index.rules.Faithful memo [] current) (id : NamedId) :
    (index.facts id current).1 = (index.facts id memo).1 := by
  simp only [facts_eq, TerminalRules.terminalNames_settled settled faithful]

theorem facts_isSome (settled : index.rules.Settled memo) (id : NamedId) :
    (index.facts id memo).1.isSome = true ↔
      index.rules.HasTerminal memo id ∨ (index.stages.lookup id).isSome = true := by
  rw [← not_not (a := index.rules.HasTerminal memo id), ← TerminalRules.terminalNames_eq_nil settled,
    facts_eq]
  cases (index.rules.terminalNames id memo).1 <;> simp

theorem factsOf_eq (type : Ty) (memo : Memo) :
    (index.factsOf type memo).1 = (index.decls.base? type).bind fun id => (index.facts id memo).1 := by
  unfold factsOf
  cases index.decls.base? type <;> rfl

end Index

namespace IndexInput

variable (input : IndexInput) {current : Memo}

/-- Is a declared type reached from the result of an entry point? -/
def Reached (id : NamedId) : Prop :=
  ∃ entry ∈ input.entryPoints, ∃ result seed, input.program.decls.resultOf? entry = some result ∧
    input.program.decls.base? result = some seed ∧
    Relation.ReflTransGen input.program.decls.LeadsTo seed id

theorem mem_visited_iff_reached (id : NamedId) :
    id ∈ input.terminalRules.visited (input.entryPoints.filterMap input.program.decls.resultOf?) ↔
      input.Reached id := by
  rw [TerminalRules.mem_visited]
  constructor
  · rintro ⟨result, member, seed, base, way⟩
    obtain ⟨entry, listed, first⟩ := List.mem_filterMap.mp member
    exact ⟨entry, listed, result, seed, first, base, way⟩
  · rintro ⟨entry, listed, result, seed, first, base, way⟩
    exact ⟨result, List.mem_filterMap.mpr ⟨entry, listed, first⟩, seed, base, way⟩

theorem facts_build_isSome (settled : input.terminalRules.Settled [])
    (faithful : input.terminalRules.Faithful [] [] current) (id : NamedId) :
    (input.build.index.facts id current).1.isSome = true ↔
      input.terminalRules.HasTerminal current id ∨
        input.Reached id ∧ input.terminalRules.Completes current id := by
  rw [Index.facts_settled _ settled faithful, Index.facts_isSome _ settled, faithful.hasTerminal,
    faithful.completes, ← mem_visited_iff_reached]
  exact or_congr_right (TerminalRules.stages_lookup_isSome settled _ _ id)

/-- What is reported about an entry point that leads nowhere. -/
def leadsNowhere (entry : FuncId × Place) : Declaration :=
  { place := entry.2
    message := (Problem.unreachableTerminal (input.program.decls.functionNamed entry.1)).message }

theorem resultFacts_settled (settled : input.terminalRules.Settled [])
    (faithful : input.terminalRules.Faithful [] [] current) (func : FuncId) :
    (input.resultFacts input.build.index func current).1 =
      (input.resultFacts input.build.index func []).1 := by
  unfold resultFacts
  cases input.program.decls.resultOf? (.plain func) with
  | none => rfl
  | some type =>
    simp only [Index.factsOf_eq, Index.facts_settled input.build.index settled faithful]

theorem checkEntries_settled (settled : input.terminalRules.Settled [])
    (faithful : input.terminalRules.Faithful [] [] current) (entries : List (FuncId × Place)) :
    (input.checkEntries input.build.index entries current).1 =
      (entries.filter fun entry => (input.resultFacts input.build.index entry.1 []).1.isNone).map
        input.leadsNowhere := by
  induction entries generalizing current with
  | nil => rfl
  | cons entry entries ih =>
    obtain ⟨asked, next⟩ := input.resultFacts_memo input.build.index entry.1 current
    -- Each check leaves only right notes, so the rest is checked as if it came first.
    have later := (input.build.index.faithful_after
      (fun func terminal => (settled func ((faithful.same func).mp terminal)).mono faithful) asked).trans
        faithful
    rw [checkEntries_cons]
    simp only [input.resultFacts_settled settled faithful, next, ih later, List.filter_cons]
    cases (input.resultFacts input.build.index entry.1 []).1 with
    | none => rfl
    | some facts => rfl

theorem plain_mem_entryPoints {entry : FuncId × Place} (declared : entry ∈ input.entryPlaces) {result : Ty}
    (first : input.program.decls.resultOf? (.plain entry.1) = some result) :
    Method.plain entry.1 ∈ input.entryPoints := by
  obtain ⟨⟨func, place⟩, member, rfl⟩ := List.mem_map.mp declared
  cases known : input.program.decls.functions[func]? with
  | none =>
    simp [Declarations.resultOf?, Declarations.resultsOf, Declarations.signatureOf?, Method.plain,
      known] at first
  | some function =>
    refine List.mem_append_left _ (List.mem_filterMap.mpr ⟨func, List.mem_append_left _ ?_, ?_⟩)
    · exact List.mem_map.mpr ⟨(func, place), member, rfl⟩
    · rw [known, Option.map_some]

/-- The result of a declared entry point is reached, so it is a builder exactly if it leads to a type
with a terminal method. -/
theorem resultFacts_isSome (settled : input.terminalRules.Settled []) {entry : FuncId × Place}
    (declared : entry ∈ input.entryPlaces) :
    (input.resultFacts input.build.index entry.1 []).1.isSome = true ↔
      ∃ result id, input.program.decls.resultOf? (.plain entry.1) = some result ∧
        input.program.decls.base? result = some id ∧ input.terminalRules.Completes [] id := by
  have builder (id : NamedId) :=
    input.facts_build_isSome settled (TerminalRules.Faithful.refl input.terminalRules []) id
  cases first : input.program.decls.resultOf? (.plain entry.1) with
  | none => simp [resultFacts, first]
  | some result =>
    simp only [resultFacts, first, Index.factsOf_eq]
    change ((input.program.decls.base? result).bind _).isSome = true ↔ _
    cases base : input.program.decls.base? result with
    | none => simp [base]
    | some id =>
      simp only [Option.bind_some, builder, Option.some.injEq]
      constructor
      · rintro (terminal | ⟨-, completes⟩)
        · exact ⟨result, id, rfl, base, id, .refl, terminal⟩
        · exact ⟨result, id, rfl, base, completes⟩
      · rintro ⟨result, id, rfl, same, completes⟩
        cases base.symm.trans same
        exact Or.inr ⟨⟨_, input.plain_mem_entryPoints declared first, _, _, first, base, .refl⟩, completes⟩

theorem collected_ofDirectives : AllOfDirectives input.collected.problems := by
  unfold collected
  split
  · exact Package.collect_ofDirectives _ _
  · exact fun _ member => nomatch member

def memoAfter (questions : List Question) : Memo :=
  input.build.index.after questions input.build.memo

theorem faithful_memoAfter (settled : input.terminalRules.Settled []) (questions : List Question) :
    input.terminalRules.Faithful [] [] (input.memoAfter questions) := by
  obtain ⟨asked, start⟩ := input.build_memo
  rw [memoAfter, start, ← Index.after_append]
  exact input.build.index.faithful_after settled _

/-- What a built index says about types, where no struct embeds itself by way of others. After any
questions, a type is a builder exactly if it is, or points to, a declared type that has a terminal
method or lies on a way from the first result of an entry point to a type with one. Types of the
same declared type have the same facts. Of the entry points declared in the package, those are
reported as leading nowhere whose first result leads to no type with a terminal method, and no
other problem has such a message. -/
theorem builder_iff_leads_to_terminal (received : input.program.decls.WellReceived)
    (acyclic : input.program.decls.AcyclicEmbedding) (questions others : List Question) :
    (∀ type, (input.build.index.factsOf type (input.memoAfter questions)).1.isSome = true ↔
      ∃ id, input.program.decls.base? type = some id ∧
        (input.build.index.rules.HasTerminal (input.memoAfter questions) id ∨
          input.Reached id ∧ input.build.index.rules.Completes (input.memoAfter questions) id)) ∧
    (∀ first second, input.program.decls.sameBase first second = true →
      (input.build.index.factsOf first (input.memoAfter questions)).1 =
        (input.build.index.factsOf second (input.memoAfter others)).1) ∧
    (∃ nowhere : FuncId × Place → Bool,
      (∀ entry ∈ input.entryPlaces, nowhere entry = true ↔
        ¬ ∃ result id, input.program.decls.resultOf? (.plain entry.1) = some result ∧
          input.program.decls.base? result = some id ∧
          input.build.index.rules.Completes (input.memoAfter questions) id) ∧
      input.build.declarations =
        input.collected.problems ++ (input.entryPlaces.filter nowhere).map input.leadsNowhere) ∧
    ∀ problem ∈ input.collected.problems, ∀ function,
      problem.message ≠ (Problem.unreachableTerminal function).message := by
  -- All answers come down to those that are given from the empty memo.
  have settled : input.terminalRules.Settled [] :=
    TerminalRules.settled_of_acyclicEmbedding received acyclic []
  have faithful := input.faithful_memoAfter settled
  refine ⟨fun type => ?_, fun first second same => ?_, ?_, fun problem member function => ?_⟩
  · rw [Index.factsOf_eq]
    change ((input.program.decls.base? type).bind _).isSome = true ↔ _
    cases input.program.decls.base? type with
    | none => simp
    | some id =>
      simp only [Option.bind_some, Option.some.injEq, exists_eq_left']
      exact input.facts_build_isSome settled (faithful questions) id
  · rw [Index.factsOf_eq, Index.factsOf_eq]
    change (input.program.decls.base? first).bind _ = (input.program.decls.base? second).bind _
    rw [Declarations.base?_of_sameBase same]
    refine congrArg _ (funext fun id => ?_)
    exact (input.build.index.facts_settled settled (faithful questions) id).trans
      (input.build.index.facts_settled settled (faithful others) id).symm
  · obtain ⟨asked, -, declarations⟩ := input.build_eq
    refine ⟨fun entry => (input.resultFacts input.build.index entry.1 []).1.isNone,
      fun entry declared => ?_, ?_⟩
    · rw [Option.isNone_iff_eq_none, ← Option.not_isSome_iff_eq_none,
        input.resultFacts_isSome settled declared]
      simp only [← (faithful questions).completes]
      rfl
    · rw [declarations]
      rw [input.checkEntries_settled settled (input.build.index.faithful_after settled asked)]
  · obtain ⟨_, ofDirective, same⟩ := input.collected_ofDirectives problem member
    rw [same]
    exact ofDirective.message_ne function

end IndexInput

namespace Sample

/-- A package with two entry points. `New` makes a step, and the step a query; `Done` of the query
redeclares the terminal method of the struct that the query embeds. `Lost` makes a plain value. -/
def layered : IndexInput :=
  { program :=
      { decls :=
          { packagePaths := ["app"]
            types := #[
              .declared { name := "Base", package := some 0, underlying := 5, methods := [0], typeParams := [] },
              .declared { name := "Query", package := some 0, underlying := 6, methods := [1], typeParams := [] },
              .declared { name := "Step", package := some 0, underlying := 5, methods := [2], typeParams := [] },
              .declared { name := "Plain", package := some 0, underlying := 5, methods := [], typeParams := [] },
              .literal (.pointer 1),
              .literal (.struct (some 0) []),
              .literal (.struct (some 0) [⟨"Base", true, "", 0⟩]),
              .literal (.func { params := [], results := [], variadic := false }),
              .literal (.func { params := [], results := [4], variadic := false }),
              .literal (.func { params := [], results := [2], variadic := false }),
              .literal (.func { params := [], results := [3], variadic := false })]
            functions := [
              { name := "Done", package := some 0, type := 7, receiver := some 0, typeParams := [],
                receiverParams := [] },
              { name := "Done", package := some 0, type := 7, receiver := some 4, typeParams := [],
                receiverParams := [] },
              { name := "Query", package := some 0, type := 8, receiver := some 2, typeParams := [],
                receiverParams := [] },
              { name := "New", package := some 0, type := 9, receiver := none, typeParams := [],
                receiverParams := [] },
              { name := "Lost", package := some 0, type := 10, receiver := none, typeParams := [],
                receiverParams := [] }] }
        packages := [
          { imports := []
            scope := []
            files := [
              { packageName := "app"
                start := 0
                stop := 90
                lines := LineTable.ofStarts? 90 [0]
                comments := []
                doc := []
                decls := [
                  .funcDecl ⟨20, 30, none⟩ (some 0) [⟨10, "//endcheck:end"⟩] none none,
                  .funcDecl ⟨50, 60, none⟩ (some 3) [⟨40, "//endcheck:start"⟩] none none,
                  .funcDecl ⟨80, 90, none⟩ (some 4) [⟨70, "//endcheck:start"⟩] none none] }] }] }
    package := 0
    rules := .none
    handedOn := []
    order := .asFound }

theorem layered_acyclic : layered.program.decls.AcyclicEmbedding :=
  @Declarations.AcyclicEmbedding.of_flat _ 0 (by decide +kernel)

/-- The step is a builder, since it lies between `New` and the query, and the plain value is none. -/
theorem layered_builders :
    layered.program.decls.WellReceived ∧ layered.program.decls.AcyclicEmbedding ∧
      (∃ id, layered.program.decls.base? (.plain 2) = some id ∧
        (layered.build.index.rules.HasTerminal (layered.memoAfter [.terminal 0]) id ∨
          layered.Reached id ∧
            layered.build.index.rules.Completes (layered.memoAfter [.terminal 0]) id)) ∧
      (¬ ∃ id, layered.program.decls.base? (.plain 3) = some id ∧
        (layered.build.index.rules.HasTerminal (layered.memoAfter [.terminal 0]) id ∨
          layered.Reached id ∧
            layered.build.index.rules.Completes (layered.memoAfter [.terminal 0]) id)) ∧
      layered.build.declarations.map Declaration.message =
        ["entry point Lost never reaches a terminal method"] := by
  have received : layered.program.decls.WellReceived := by decide +kernel
  obtain ⟨builders, -⟩ :=
    layered.builder_iff_leads_to_terminal received layered_acyclic [.terminal 0] []
  refine ⟨received, layered_acyclic, (builders (.plain 2)).mp (by decide +kernel), ?_, by decide +kernel⟩
  rw [← builders (.plain 3)]
  decide +kernel

end Sample

end Fluent
