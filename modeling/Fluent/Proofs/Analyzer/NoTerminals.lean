import Fluent.Proofs.Analyzer.Account
import Fluent.Proofs.Index.Eligibility
import Fluent.Proofs.Index.Provenance

/-! Code without terminal methods is left alone.

Entry points and ignored functions make no builders by themselves: where nothing is marked as
terminal, no method becomes so by embedding or by an interface. Then no type is a builder, and
no chain is found in any file. -/

set_option autoImplicit false

namespace Fluent

open Inquiry (View)

/-- Where nothing is marked and no interface has a terminal method, none is found either. -/
theorem TerminalRules.not_terminal_of_unmarked {rules : TerminalRules}
    (unmarked : ∀ func, (rules.markers.of func).kind ≠ .terminal)
    (plain : rules.interfaceTerminals = []) (func : FuncId) : ¬ rules.Terminal [] func := by
  intro terminal
  induction terminal with
  | known yes => cases yes
  | marked _ mark => exact unmarked _ mark
  | redeclares _ _ _ ih => exact ih
  | @implements func _ found =>
    simp only [implementsTerminal, plain, List.any_nil, Bool.and_false] at found
    split at found <;> cases found

namespace Scene

variable (scene : Scene) {view : View}

/-- A chain is extracted only around a builder. -/
theorem chain?_of_no_builder (none : ∀ type, view.isBuilder scene.decls type = false) (cursor : Cursor) :
    (scene.chain? cursor).runWith view = Option.none := by
  have unstarted : scene.starts? view cursor = Option.none := by
    unfold starts?
    split
    next head callee _ _ _ =>
      have uncalled : scene.callsBuilder view callee = false := by
        unfold callsBuilder
        split
        · simp [none]
        · rfl
      simp [uncalled, none]
    next => simp [none]
    next => rfl
  rw [runWith_chain?, unstarted]
  cases mentioned : (scene.mention cursor).runWith view with
  | none => rfl
  | some chain =>
    have builder := (scene.runWith_mention view mentioned).2.1
    rw [none] at builder
    cases builder

theorem chains_of_no_builder (none : ∀ type, view.isBuilder scene.decls type = false) :
    scene.chains.runWith view = [] := by
  rw [chains, runWith_chainsAt]
  exact List.filterMap_eq_nil_iff.mpr fun cursor _ => scene.chain?_of_no_builder none cursor

end Scene

namespace Configuration

variable (configuration : Configuration)

theorem checkFile_of_no_builder {view : View} {markers : Markers}
    (none : ∀ type, view.isBuilder markers.decls type = false) (number : Nat) (file : SourceFile) :
    (configuration.checkFile markers number file).runWith view =
      if file.lines.isNone then [withoutPositions number file] else [] := by
  have chains := Scene.chains_of_no_builder { markers, file } none
  unfold checkFile
  simp only [Inquiry.runWith_ite, Inquiry.runWith_pure, Inquiry.runWith_bind, chains,
    Chain.allObligations, diagnostics, List.filterMap_nil, ite_self]
  rfl

end Configuration

namespace IndexInput

variable {input : IndexInput}

theorem kind_ne_terminal (unruled : input.rules.terminals = [])
    (undeclared : ∀ entry ∈ input.collected.markers, entry.2.kind ≠ .terminal)
    (unimported : ∀ entry ∈ input.handedOn, entry.2.kind ≠ .terminal) (func : FuncId) :
    (input.markers.of func).kind ≠ .terminal := by
  rcases input.markers.of_cases func with declared | imported | ruled | none
  · exact undeclared _ declared
  · exact unimported _ imported
  · obtain ⟨⟨kind, rule⟩, listed, -, same⟩ := RuleSet.rule_of_mem_markers ruled
    simp only at same
    rw [same]
    simp only [RuleSet.byKind, unruled, List.map_nil, List.nil_append, List.mem_append, List.mem_map,
      Prod.mk.injEq] at listed
    rcases listed with ⟨_, -, rfl, -⟩ | ⟨_, -, rfl, -⟩ <;> simp
  · rw [none]
    simp [Marker.unmarked]

theorem interfaceTerminals_eq_nil (unruled : input.rules.terminals = [])
    (undeclared : ∀ entry ∈ input.collected.markers, entry.2.kind ≠ .terminal)
    (unimported : ∀ entry ∈ input.handedOn, entry.2.kind ≠ .terminal) :
    input.interfaceTerminals = [] := by
  have declared : input.collected.markers.filter (fun entry => entry.2.kind = .terminal) = [] :=
    List.filter_eq_nil_iff.mpr fun entry member => by simpa using undeclared entry member
  have imported : input.importedOfKind .terminal = [] := by
    refine List.map_eq_nil_iff.mpr (List.filter_eq_nil_iff.mpr fun entry member => ?_)
    simp [unimported entry member]
  simp [interfaceTerminals, declared, imported, unruled, asDeclared, ruledFunctions]

variable (input)

/-- Without terminal methods in the package, in markers handed on and in rules there is nothing to
check. Whatever has been asked, no type is a builder and no file has a chain. The diagnostics of a
package are those of its directives and of its files without positions. -/
theorem nothing_to_check (unruled : input.rules.terminals = [])
    (undeclared : ∀ entry ∈ input.collected.markers, entry.2.kind ≠ .terminal)
    (unimported : ∀ entry ∈ input.handedOn, entry.2.kind ≠ .terminal) :
    (∀ (questions : List Question) (type : Ty),
      (input.build.index.factsOf type (input.memoAfter questions)).1 = none) ∧
    (∀ (questions : List Question) (file : SourceFile), (input.build.index.run
      (Scene.chains { markers := input.build.index.markers, file }) (input.memoAfter questions)).1 = []) ∧
    ∀ (configuration : Configuration) (package : Package),
      configuration.checkPackage input.build package =
      (if configuration.behavior.enabled Behavior.reportDeclarations
        then input.build.declarations.map Declaration.diagnostic else []) ++
        package.files.zipIdx.flatMap fun (file, number) =>
          if file.lines.isNone then [Configuration.withoutPositions number file] else [] := by
  have absent := @TerminalRules.not_terminal_of_unmarked input.terminalRules
    (kind_ne_terminal unruled undeclared unimported)
    (interfaceTerminals_eq_nil unruled undeclared unimported)
  have settled : input.terminalRules.Settled [] := fun func terminal => (absent func terminal).elim
  have facts (questions : List Question) (id : NamedId) :
      (input.build.index.facts id (input.memoAfter questions)).1 = none := by
    have faithful := input.faithful_memoAfter settled questions
    have without (id : NamedId) : ¬ input.terminalRules.HasTerminal (input.memoAfter questions) id := by
      rintro ⟨method, -, terminal⟩
      exact absent _ ((faithful.same _).mp ((TerminalRules.isTerminal_iff _ _).mp terminal))
    rw [← Option.not_isSome_iff_eq_none, input.facts_build_isSome settled faithful]
    rintro (terminal | ⟨-, target, -, terminal⟩)
    · exact without id terminal
    · exact without target terminal
  -- A run goes on from one memo to another, and none of them knows a builder.
  have builders {questions : List Question} {memo : Memo} (same : memo = input.memoAfter questions)
      (type : Option Ty) : (input.build.index.view memo).isBuilder input.build.index.decls type = false := by
    rw [Inquiry.View.isBuilder_eq, Inquiry.factsOf]
    cases type.bind input.build.index.decls.base? with
    | none => rfl
    | some id =>
      change (input.build.index.facts id memo).1.isSome = false
      rw [same, facts]
      rfl
  have later (questions : List Question) {α : Type} (inquiry : Inquiry α) : ∃ others,
      (input.build.index.run inquiry (input.memoAfter questions)).2 = input.memoAfter others := by
    obtain ⟨asked, same⟩ := input.build.index.run_after inquiry (input.memoAfter questions)
    exact ⟨questions ++ asked, by rw [same, memoAfter, memoAfter, Index.after_append]⟩
  refine ⟨fun questions type => ?_, fun questions file => ?_, fun configuration package => ?_⟩
  · rw [Index.factsOf_eq]
    cases input.build.index.decls.base? type with
    | none => rfl
    | some id => exact facts questions id
  · obtain ⟨others, same⟩ := later questions (Scene.chains { markers := input.build.index.markers, file })
    rw [input.build.index.run_eq_runWith _ (Memo.Extends.refl _)]
    exact Scene.chains_of_no_builder { markers := input.build.index.markers, file } (builders same)
  · obtain ⟨others, same⟩ := later []
      (configuration.checkFiles input.build.index.markers 0 package.files)
    rw [configuration.checkPackage_eq]
    refine congrArg (_ ++ ·) (congrArg (List.flatMap · _) (funext fun item => ?_))
    exact configuration.checkFile_of_no_builder (builders same) item.2 item.1

end IndexInput

namespace Sample

/-- A package with an entry point `New`, and an ignored function that drops what `New` makes. Nothing
is known about the positions in its second file. -/
def unended : Package :=
  let file : SourceFile :=
    { packageName := "app"
      start := 0
      stop := 90
      lines := LineTable.ofStarts? 90 [0]
      comments := []
      doc := []
      decls := [
        .funcDecl ⟨20, 30, none⟩ (some 3) [⟨10, "//endcheck:start"⟩] none none,
        .funcDecl ⟨50, 60, none⟩ (some 4) [⟨40, "//endcheck:ignore"⟩] none
          (some (.discard ⟨52, 57, none⟩ .expression
            (.call ⟨52, 57, some (.plain 2)⟩
              (.ident ⟨⟨52, 55, some (.plain 9)⟩, "New", some 3, none⟩) [] false)))] }
  { imports := [], scope := [], files := [file, { file with lines := none, decls := [] }] }

def unendedInput : IndexInput :=
  { layered with program := { layered.program with packages := [unended] } }

/-- The step that `New` makes is no builder, and only the second file is reported. -/
theorem unended_unchecked :
    unendedInput.rules.terminals = [] ∧
      (∀ entry ∈ unendedInput.collected.markers, entry.2.kind ≠ .terminal) ∧
      (∀ entry ∈ unendedInput.handedOn, entry.2.kind ≠ .terminal) ∧
      (unendedInput.build.index.factsOf (.plain 2) (unendedInput.memoAfter [.terminal 0])).1 = none ∧
      (Configuration.default.checkPackage unendedInput.build unended).map Diagnostic.message =
        [.ofString "entry point New never reaches a terminal method",
          .ofString "Internal Error: File app without valid info"] := by
  have undeclared : ∀ entry ∈ unendedInput.collected.markers, entry.2.kind ≠ .terminal := by
    decide +kernel
  obtain ⟨builders, -, checked⟩ :=
    unendedInput.nothing_to_check rfl undeclared fun _ member => nomatch member
  refine ⟨rfl, undeclared, fun _ member => (nomatch member), builders [.terminal 0] (.plain 2), ?_⟩
  rw [checked]
  decide +kernel

end Sample

end Fluent
