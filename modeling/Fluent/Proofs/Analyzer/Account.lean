import Fluent.Proofs.Analyzer.Findings
import Fluent.Proofs.Index.History

/-! Where the diagnostics of a package come from.

A check asks the index as it goes along. When it is over its answers are fixed, and the
diagnostics can be accounted for one by one: each is about a directive, about a file without
positions, or about an obligation of a chain that starts at a position of a file. -/

set_option autoImplicit false

namespace Fluent

open Inquiry (View)

structure Origin where
  cursor : Cursor
  chain : Chain
  /-- The number of the obligation along the chain. -/
  number : Nat
  obligation : Obligation

structure Finding where
  diagnostic : Diagnostic
  /-- Missing if the diagnostic is not about a chain. -/
  origin : Option Origin

namespace Index

variable (index : Index)

/-- A run leaves the memo that the questions it has asked leave. -/
theorem run_after {α : Type} (inquiry : Inquiry α) (memo : Memo) :
    ∃ asked, (index.run inquiry memo).2 = index.after asked memo := by
  induction inquiry generalizing memo with
  | done value => exact ⟨[], rfl⟩
  | ask question next ih =>
    obtain ⟨asked, same⟩ := ih (index.answer question memo).1 (index.answer question memo).2
    exact ⟨question :: asked, same⟩

end Index

namespace Scene

variable (scene : Scene) (view : View)

/-- The chains of a file with the positions that they are extracted from. -/
def located : List (Cursor × Chain) :=
  scene.file.cursors.filterMap fun cursor =>
    ((scene.chain? cursor).runWith view).map fun chain => (cursor, chain)

theorem runWith_chainsAt (cursors : List Cursor) :
    (scene.chainsAt cursors).runWith view =
      cursors.filterMap fun cursor => (scene.chain? cursor).runWith view := by
  induction cursors with
  | nil => rfl
  | cons cursor cursors ih =>
    simp only [chainsAt, Inquiry.runWith_bind, Inquiry.runWith_pure, ih]
    rw [List.filterMap_cons]
    cases (scene.chain? cursor).runWith view <;> rfl

theorem runWith_chains : scene.chains.runWith view = (scene.located view).map Prod.snd := by
  rw [chains, runWith_chainsAt, located, List.map_filterMap]
  refine List.filterMap_congr fun cursor _ => ?_
  rw [Option.map_map]
  exact Option.map_id'.symm

end Scene

/-- The findings that a chain at a position of a numbered file leads to. -/
def Chain.findingsAt (view : View) (markers : Markers) (wording : Wording) (number : Nat)
    (cursor : Cursor) (chain : Chain) : List Finding :=
  (chain.tracked view markers).filterMap fun entry =>
    (entry.2.diagnostic? wording number).map fun diagnostic =>
      { diagnostic, origin := some { cursor, chain, number := entry.1, obligation := entry.2 } }

theorem Chain.map_findingsAt (view : View) (markers : Markers) (wording : Wording) (number : Nat)
    (cursor : Cursor) (chain : Chain) :
    (chain.findingsAt view markers wording number cursor).map Finding.diagnostic =
      chain.findings view markers wording number := by
  rw [findingsAt, List.map_filterMap, findings]
  refine List.filterMap_congr fun entry _ => ?_
  rw [Option.map_map]
  exact Option.map_id'

namespace Configuration

variable (configuration : Configuration)

/-- What is reported about a file without positions. -/
def withoutPositions (number : Nat) (file : SourceFile) : Diagnostic :=
  internalError { file := number, start := file.start, stop := some file.stop }
    "File %s without valid info" [file.packageName]

/-- The findings on a numbered file against fixed answers. -/
def fileAccount (view : View) (markers : Markers) (number : Nat) (file : SourceFile) : List Finding :=
  if file.lines.isNone then [{ diagnostic := withoutPositions number file, origin := none }]
  else if configuration.skips file then []
  else
    (Scene.located { markers, file } view).flatMap fun (cursor, chain) =>
      chain.findingsAt view markers configuration.wording number cursor

theorem map_fileAccount (view : View) (markers : Markers) (number : Nat) (file : SourceFile) :
    (configuration.fileAccount view markers number file).map Finding.diagnostic =
      (configuration.checkFile markers number file).runWith view := by
  unfold fileAccount
  split
  next missing => simp [checkFile, missing, withoutPositions]
  next positions =>
    split
    next skipped => simp [checkFile, positions, skipped]
    next checked =>
      rw [configuration.runWith_checkFile view markers number (by simpa [Option.isSome_iff_ne_none] using positions)
        ((Bool.not_eq_true _).mp checked), Scene.runWith_chains, List.flatMap_map, List.map_flatMap]
      refine congrArg (List.flatMap · _) (funext fun located => ?_)
      exact located.2.map_findingsAt view markers configuration.wording number located.1

theorem runWith_checkFiles (view : View) (markers : Markers) (number : Nat) (files : List SourceFile) :
    (configuration.checkFiles markers number files).runWith view =
      (files.zipIdx number).flatMap fun (file, number) =>
        (configuration.checkFile markers number file).runWith view := by
  induction files generalizing number with
  | nil => rfl
  | cons file files ih =>
    simp only [checkFiles, Inquiry.runWith_bind, Inquiry.runWith_pure, ih, List.zipIdx_cons,
      List.flatMap_cons]

/-- The memo of an index when a package has been checked. -/
def memoAfterCheck (built : Built) (package : Package) : Memo :=
  (built.index.run (configuration.checkFiles built.index.markers 0 package.files) built.memo).2

/-- All findings on a package, with the answers that its check has been given. -/
def account (built : Built) (package : Package) : List Finding :=
  (if configuration.behavior.enabled Behavior.reportDeclarations
    then built.declarations.map fun declaration => { diagnostic := declaration.diagnostic, origin := none }
    else []) ++
    package.files.zipIdx.flatMap fun (file, number) =>
      configuration.fileAccount (built.index.view (configuration.memoAfterCheck built package))
        built.index.markers number file

theorem checkPackage_eq (built : Built) (package : Package) :
    configuration.checkPackage built package =
      (if configuration.behavior.enabled Behavior.reportDeclarations
        then built.declarations.map Declaration.diagnostic else []) ++
        package.files.zipIdx.flatMap fun (file, number) =>
          (configuration.checkFile built.index.markers number file).runWith
            (built.index.view (configuration.memoAfterCheck built package)) := by
  rw [checkPackage, built.index.run_eq_runWith _ (Memo.Extends.refl _), runWith_checkFiles]
  rfl

/-- The account of a package lists its diagnostics in the order in which they are reported. -/
theorem map_account (built : Built) (package : Package) :
    (configuration.account built package).map Finding.diagnostic =
      configuration.checkPackage built package := by
  rw [checkPackage_eq, account, List.map_append, List.map_flatMap]
  congr 1
  · split
    · simp [Function.comp_def]
    · rfl
  · refine congrArg (List.flatMap · _) (funext fun item => ?_)
    exact configuration.map_fileAccount _ _ item.2 item.1

/-- A finding is about a directive or about a file without positions. Or it goes back to a position of
a file that is checked, and to an obligation of the chain that is extracted there. -/
theorem cases_of_mem_account {built : Built} {package : Package} {finding : Finding}
    (member : finding ∈ configuration.account built package) :
    let view := built.index.view (configuration.memoAfterCheck built package)
    (finding.origin = none ∧ ∃ declaration ∈ built.declarations, finding.diagnostic = declaration.diagnostic) ∨
    (finding.origin = none ∧ ∃ file number, (file, number) ∈ package.files.zipIdx ∧
      finding.diagnostic = withoutPositions number file) ∨
    ∃ origin, finding.origin = some origin ∧
      ∃ file number, (file, number) ∈ package.files.zipIdx ∧ file.lines.isNone = false ∧
        configuration.skips file = false ∧
        (origin.cursor, origin.chain) ∈ Scene.located { markers := built.index.markers, file } view ∧
        (origin.number, origin.obligation) ∈ origin.chain.tracked view built.index.markers ∧
        origin.obligation.diagnostic? configuration.wording number = some finding.diagnostic := by
  rcases List.mem_append.mp member with declared | checked
  · split at declared
    · obtain ⟨declaration, listed, rfl⟩ := List.mem_map.mp declared
      exact Or.inl ⟨rfl, declaration, listed, rfl⟩
    · cases declared
  · obtain ⟨⟨file, number⟩, listed, inFile⟩ := List.mem_flatMap.mp checked
    simp only [fileAccount] at inFile
    split at inFile
    next =>
      rw [List.mem_singleton.mp inFile]
      exact Or.inr (Or.inl ⟨rfl, file, number, listed, rfl⟩)
    next positions =>
      split at inFile
      next => cases inFile
      next kept =>
        obtain ⟨⟨cursor, chain⟩, located, inChain⟩ := List.mem_flatMap.mp inFile
        obtain ⟨entry, tracked, given⟩ := List.mem_filterMap.mp inChain
        obtain ⟨diagnostic, reported, rfl⟩ := Option.map_eq_some_iff.mp given
        exact Or.inr (Or.inr ⟨_, rfl, file, number, listed, (Bool.not_eq_true _).mp positions,
          (Bool.not_eq_true _).mp kept, located, tracked, reported⟩)

end Configuration

namespace Sample

/-- The package of the library, with the directives of its functions. -/
def libraryPackage : Package :=
  { imports := []
    scope := []
    files := [
      { packageName := "lib"
        start := 0
        stop := 60
        lines := LineTable.ofStarts? 60 [0]
        comments := []
        doc := []
        decls := [
          .funcDecl ⟨20, 30, none⟩ (some 0) [⟨10, "//endcheck:end"⟩] none none,
          .funcDecl ⟨50, 60, none⟩ (some 1) [⟨40, "//endcheck:start"⟩] none none] }] }

end Sample

end Fluent
