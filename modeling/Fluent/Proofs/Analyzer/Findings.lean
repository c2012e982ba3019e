import Fluent.Analyzer.Check
import Fluent.Proofs.Chain.Extraction
import Fluent.Proofs.Index.Memo
import Fluent.Proofs.Obligation.Walk

/-! What a file is told about its chains.

The diagnostics of a file are those of the obligations of its chains. Extraction and the
walk along a chain ask for builders each on its own; in a well-typed file they agree, so the
walk starts at the root, comes to the last step, and judges the root by the methods on its way. -/

set_option autoImplicit false

namespace Fluent

open Inquiry (View)

namespace Chain

variable (view : View) (markers : Markers) (wording : Wording) (number : Nat) (chain : Chain)

/-- The diagnostics that a chain of a numbered file leads to. -/
def findings : List Diagnostic :=
  (chain.tracked view markers).filterMap fun entry => entry.2.diagnostic? wording number

theorem findings_eq : chain.findings view markers wording number =
    diagnostics wording number ((chain.obligations markers).runWith view) := by
  rw [← tracked_snd, diagnostics, List.filterMap_map]
  rfl

theorem runWith_allObligations (chains : List Chain) :
    (allObligations markers chains).runWith view =
      chains.flatMap fun chain => (chain.obligations markers).runWith view := by
  induction chains with
  | nil => rfl
  | cons chain chains ih =>
    simp only [allObligations, Inquiry.runWith_bind, Inquiry.runWith_pure, ih, List.flatMap_cons]

/-- Does the walk along a chain come to its last step? -/
def walksToEnd : Prop :=
  let walk := (moves markers chain.steps).runWith view
  (walk.2 = .finished ∧ walk.1.length = chain.steps.length) ∨
    (∃ terminal node, walk.2 = .consumed terminal node) ∧ walk.1.length + 1 = chain.steps.length

theorem obligations_ne_nil (builder : view.isBuilder markers.decls chain.root.type = true) :
    (chain.obligations markers).runWith view ≠ [] := by
  obtain ⟨course, found, _⟩ := runWith_course? view markers chain builder
  rw [← tracked_snd, tracked, found]
  simpa using course.tracked_ne_nil chain.context (chain.accepted view markers course)

/-- An excused obligation keeps its place, and is no longer violated. -/
theorem excuse_cases (obligation : Obligation) :
    (chain.excuse obligation = obligation ∧
      (chain.suppressed = true → ∀ usage node, obligation.outcome ≠ .violated usage node)) ∨
    (chain.suppressed = true ∧ (∃ usage node, obligation.outcome = .violated usage node) ∧
      chain.excuse obligation = { obligation with outcome := .suppressed chain.context.usage }) := by
  unfold excuse suppress
  cases exempt : chain.suppressed with
  | false => exact Or.inl ⟨by simp, fun absurd => nomatch absurd⟩
  | true =>
    cases outcome : obligation.outcome with
    | violated usage node => exact Or.inr ⟨rfl, ⟨usage, node, rfl⟩, by simp⟩
    | _ => exact Or.inl ⟨by simp, by simp⟩

theorem findings_of_suppressed (exempt : chain.suppressed = true) :
    chain.findings view markers wording number = [] := by
  unfold findings tracked
  cases (chain.course? markers).runWith view with
  | none => rfl
  | some course =>
    rw [List.filterMap_eq_nil_iff]
    intro entry member
    obtain ⟨before, _, rfl⟩ := List.mem_map.mp member
    obtain ⟨same, unviolated⟩ | ⟨-, -, same⟩ := chain.excuse_cases before.2
    · simp only [same, Obligation.diagnostic?]
      cases outcome : before.2.outcome with
      | violated usage node => exact (unviolated exempt usage node outcome).elim
      | _ => rfl
    · simp only [same, Obligation.diagnostic?]

/-- A chain whose last method is terminal has one obligation for its root, and it is discharged. -/
theorem root_discharged (builder : view.isBuilder markers.decls chain.root.type = true)
    (terminal : view.isTerminal (chain.steps.getLast?.bind Step.method) = true) :
    ∃ obligation, (chain.tracked view markers).filter (fun entry => entry.1 = 0) = [(0, obligation)] ∧
      obligation.outcome = .discharged ∧ obligation.start = chain.root.expr.start ∧
      obligation.stop = chain.root.expr.stop := by
  obtain ⟨course, found, start, stop, _, _, terminated⟩ := runWith_course? view markers chain builder
  obtain ⟨obligation, unique, discharged, sameStart, sameStop⟩ :=
    course.root_discharged chain.context (chain.accepted view markers course)
      (by rw [terminated, terminal])
  -- An exemption changes violated obligations only.
  have untouched : chain.excuse obligation = obligation := by
    obtain ⟨same, -⟩ | ⟨-, ⟨usage, node, violated⟩, -⟩ := chain.excuse_cases obligation
    · exact same
    · rw [discharged] at violated
      cases violated
  refine ⟨obligation, ?_, discharged, sameStart.trans start, sameStop.trans stop⟩
  simp only [tracked, found, List.filter_map, Function.comp_def, unique, List.map_cons, List.map_nil,
    untouched]

/-- A chain without a terminal method whose value is dropped is reported at its root. -/
theorem root_reported (builder : view.isBuilder markers.decls chain.root.type = true)
    (checked : chain.suppressed = false) (dropped : chain.context.usage = .statement)
    (unmarked : ∀ step ∈ chain.steps, view.isTerminal step.method = false) :
    ∃ diagnostic ∈ chain.findings view markers wording number,
      diagnostic.place =
        { file := number, start := chain.root.expr.start, stop := some chain.root.expr.stop } := by
  obtain ⟨course, found, start, stop, fresh, walk, terminated⟩ :=
    runWith_course? view markers chain builder
  obtain ⟨moves, ending⟩ := Prod.mk.inj walk
  have quiet : course.quiet := by
    obtain ⟨unmarkedMoves, unmarkedEnd⟩ := moves_unmarked view markers chain.steps unmarked
    refine ⟨?_, ?_, ?_⟩
    · rw [terminated]
      cases last : chain.steps.getLast? with
      | none => rfl
      | some step => exact unmarked step (List.mem_of_getLast? last)
    · rwa [moves]
    · rwa [ending]
  -- A context that drops a value takes no responsibility for it.
  have refused : chain.accepted view markers course = false := by
    simp [accepted, Context.accepts, dropped]
  obtain ⟨obligation, member, usage, node, violated, sameStart, sameStop⟩ :=
    course.root_violated chain.context fresh quiet
  rw [← course.tracked_snd, ← refused] at member
  obtain ⟨entry, isEntry, rfl⟩ := List.mem_map.mp member
  have untouched : chain.excuse entry.2 = entry.2 := by simp [excuse, checked]
  have reported : ∃ diagnostic, entry.2.diagnostic? wording number = some diagnostic ∧
      diagnostic.place = { file := number, start := entry.2.start, stop := some entry.2.stop } := by
    simp only [Obligation.diagnostic?, violated]
    exact ⟨_, rfl, rfl⟩
  obtain ⟨diagnostic, given, place⟩ := reported
  refine ⟨diagnostic, ?_, by rw [place, sameStart, sameStop, start, stop]⟩
  refine List.mem_filterMap.mpr ⟨(entry.1, entry.2), ?_, given⟩
  simp only [tracked, found]
  exact List.mem_map.mpr ⟨entry, isEntry, by rw [untouched]⟩

end Chain

namespace Configuration

variable (configuration : Configuration)

theorem runWith_checkFile (view : View) (markers : Markers) (number : Nat) {file : SourceFile}
    (positions : file.lines.isSome = true) (checked : configuration.skips file = false) :
    (configuration.checkFile markers number file).runWith view =
      ((Scene.chains { markers, file }).runWith view).flatMap fun chain =>
        chain.findings view markers configuration.wording number := by
  have known : file.lines.isNone = false := by simpa using positions
  simp only [checkFile, known, checked, Bool.false_eq_true, if_false, Inquiry.runWith_bind,
    Inquiry.runWith_pure, Chain.runWith_allObligations, Chain.findings_eq]
  simp only [diagnostics, List.filterMap_flatMap]

/-- Extraction is the first thing that happens to a file that is checked. -/
theorem checkFile_extends (index : Index) (number : Nat) {file : SourceFile}
    (positions : file.lines.isSome = true) (checked : configuration.skips file = false) (memo : Memo) :
    Memo.Extends (index.run (configuration.checkFile index.markers number file) memo).2
      (index.run (Scene.chains { markers := index.markers, file }) memo).2 := by
  have known : file.lines.isNone = false := by simpa using positions
  simp only [checkFile, known, checked, Bool.false_eq_true, if_false, Index.run_bind]
  exact (index.run_extends _ _).trans (index.run_extends _ _)

theorem run_checkFiles_append (index : Index) (number : Nat) (before after : List SourceFile)
    (memo : Memo) :
    index.run (configuration.checkFiles index.markers number (before ++ after)) memo =
      let first := index.run (configuration.checkFiles index.markers number before) memo
      let second :=
        index.run (configuration.checkFiles index.markers (number + before.length) after) first.2
      (first.1 ++ second.1, second.2) := by
  induction before generalizing number memo with
  | nil => rfl
  | cons file before ih =>
    simp only [List.cons_append, checkFiles, Index.run_bind, ih, List.length_cons]
    have shifted : number + 1 + before.length = number + (before.length + 1) := by omega
    rw [shifted]
    simp only [Index.run_pure, List.append_assoc]

/-- A package whose files have been checked one after another tells a file what its own check
comes to. -/
theorem checkFile_infix_checkPackage (built : Built) {package : Package} {before after : List SourceFile}
    {file : SourceFile} (files : package.files = before ++ file :: after) :
    (built.index.run (configuration.checkFile built.index.markers before.length file)
        (built.index.run (configuration.checkFiles built.index.markers 0 before) built.memo).2).1 <:+:
      configuration.checkPackage built package := by
  simp only [checkPackage, files, run_checkFiles_append, checkFiles, Index.run_bind, Index.run_pure,
    Nat.zero_add]
  exact ((List.prefix_append _ _).isInfix.trans (List.suffix_append _ _).isInfix).trans
    (List.suffix_append _ _).isInfix

/-- The verdict on the root of a chain. Whatever is asked after the file has been checked, each
chain that has been extracted from the file starts at a builder and is walked to its end. It is
reported at its root if its value is dropped and no method is terminal. The root's obligation is
discharged if the last method is terminal. A chain that is exempt from checks is not reported. -/
theorem checkPackage_judges_roots (built : Built) {package : Package}
    {before after : List SourceFile} {file : SourceFile}
    (files : package.files = before ++ file :: after) (positions : file.lines.isSome = true)
    (checked : configuration.skips file = false) (typed : file.WellTyped built.index.decls)
    {later : Memo} :
    let index := built.index
    let number := before.length
    let memo := (index.run (configuration.checkFiles index.markers 0 before) built.memo).2
    let chains := (index.run (Scene.chains { markers := index.markers, file }) memo).1
    let told := index.run (configuration.checkFile index.markers number file) memo
    let view := index.view later
    later.Extends told.2 →
    told.1 <:+: configuration.checkPackage built package ∧
    told.1 = chains.flatMap (Chain.findings view index.markers configuration.wording number) ∧
    ∀ chain ∈ chains,
      (view.isBuilder index.decls chain.root.type = true ∧
        (∀ step ∈ chain.steps.dropLast, view.isBuilder index.decls step.result = true) ∧
        (chain.obligations index.markers).runWith view ≠ [] ∧ chain.walksToEnd view index.markers) ∧
      (chain.suppressed = false → chain.context.usage = .statement →
        (∀ step ∈ chain.steps, view.isTerminal step.method = false) →
        ∃ diagnostic ∈ told.1, diagnostic.place =
          { file := number, start := chain.root.expr.start, stop := some chain.root.expr.stop }) ∧
      (∀ step, chain.steps.getLast? = some step → view.isTerminal step.method = true →
        ∃ obligation,
          (chain.tracked view index.markers).filter (fun entry => entry.1 = 0) = [(0, obligation)] ∧
          obligation.outcome = .discharged ∧ obligation.start = chain.root.expr.start ∧
          obligation.stop = chain.root.expr.stop ∧
          obligation.diagnostic? configuration.wording number = none) ∧
      (chain.suppressed = true →
        chain.findings view index.markers configuration.wording number = []) := by
  intro index number memo chains told view extended
  -- The later memo keeps all answers, so the check is one against fixed answers.
  have extracted : chains = (Scene.chains { markers := index.markers, file }).runWith view :=
    index.run_eq_runWith _
      (extended.trans (configuration.checkFile_extends index number positions checked memo))
  have all : told.1 =
      chains.flatMap (Chain.findings view index.markers configuration.wording number) := by
    rw [extracted, ← configuration.runWith_checkFile view index.markers number positions checked]
    exact index.run_eq_runWith _ extended
  refine ⟨configuration.checkFile_infix_checkPackage built files, all, ?_⟩
  intro chain member
  rw [extracted] at member
  obtain ⟨root, steps⟩ := Scene.chain_isBuilder { markers := index.markers, file } view typed member
  have walk := Chain.moves_reach_end view index.markers chain.steps steps
  refine ⟨⟨root, steps, chain.obligations_ne_nil view index.markers root, walk⟩, ?_, ?_, ?_⟩
  · intro kept dropped unmarked
    obtain ⟨diagnostic, found, place⟩ := chain.root_reported view index.markers
      configuration.wording number root kept dropped unmarked
    refine ⟨diagnostic, ?_, place⟩
    rw [all, extracted]
    exact List.mem_flatMap.mpr ⟨chain, member, found⟩
  · intro step last terminal
    obtain ⟨obligation, unique, discharged, start, stop⟩ := chain.root_discharged view index.markers
      root (by rw [last]; exact terminal)
    exact ⟨obligation, unique, discharged, start, stop, by simp [Obligation.diagnostic?, discharged]⟩
  · exact chain.findings_of_suppressed view index.markers configuration.wording number

end Configuration

namespace Sample

/-- A file that drops one builder and completes another. -/
def dropping : SourceFile := fileOf [newCall 25, doneCall 40]

def droppingBuilt : Built := (inputOf dropping).build

/-- The dropped builder is reported where it is made. -/
theorem dropped_reported :
    dropping.lines.isSome = true ∧ Configuration.default.skips dropping = false ∧
      dropping.WellTyped droppingBuilt.index.decls ∧
      ∃ diagnostic ∈ Configuration.default.checkPackage droppingBuilt (packageOf dropping),
        diagnostic.place = { file := 0, start := 25, stop := some 34 } := by
  have positions : dropping.lines.isSome = true := rfl
  have checked : Configuration.default.skips dropping = false := by decide +kernel
  have typed : dropping.WellTyped droppingBuilt.index.decls := by decide +kernel
  have first : ∃ chain ∈ (droppingBuilt.index.run
        (Scene.chains { markers := droppingBuilt.index.markers, file := dropping })
        droppingBuilt.memo).1,
      chain.suppressed = false ∧ chain.context.usage = .statement ∧ chain.steps.isEmpty = true ∧
        chain.root.expr.start = 25 ∧ chain.root.expr.stop = 34 := by decide +kernel
  obtain ⟨chain, extracted, kept, usage, steps, start, stop⟩ := first
  obtain ⟨part, -, judged⟩ := @Configuration.checkPackage_judges_roots .default droppingBuilt
    (packageOf dropping) [] [] dropping rfl positions checked typed _ (Memo.Extends.refl _)
  obtain ⟨-, reported, -, -⟩ := judged chain extracted
  obtain ⟨diagnostic, told, place⟩ := reported kept usage (by simp [List.isEmpty_iff.mp steps])
  rw [start, stop] at place
  exact ⟨positions, checked, typed, diagnostic, part.subset told, place⟩

end Sample

end Fluent
