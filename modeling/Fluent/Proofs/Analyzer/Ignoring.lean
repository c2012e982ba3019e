import Fluent.Proofs.Analyzer.Account
import Fluent.Proofs.Index.Ignoring
import Fluent.Proofs.Index.Visiting

/-! One more rule for ignored functions takes away the diagnostics that it is meant for.

With the rule and without it a check asks the same questions, since neither extraction nor the walk
along a chain depends on whether the chain is exempt. If both visit the types in the same order, they
come to the same answers, and to the same chains except for which of them are exempt. The order of
visits makes no difference where all methods settle. -/

set_option autoImplicit false

namespace Fluent

open Inquiry (View)

namespace Inquiry

variable {α β γ δ : Type}

/-- Two inquiries that ask the same questions and come to related results. -/
inductive Alike (related : α → β → Prop) : Inquiry α → Inquiry β → Prop where
  | done {first : α} {second : β} : related first second → Alike related (.done first) (.done second)
  | ask (question : Question) {first : question.Answer → Inquiry α}
      {second : question.Answer → Inquiry β} :
      (∀ answer, Alike related (first answer) (second answer)) →
      Alike related (.ask question first) (.ask question second)

namespace Alike

variable {related : α → β → Prop} {other : γ → δ → Prop} {first : Inquiry α} {second : Inquiry β}

theorem bind {next : α → Inquiry γ} {later : β → Inquiry δ} (alike : Alike related first second)
    (rest : ∀ left right, related left right → Alike other (next left) (later right)) :
    Alike other (first >>= next) (second >>= later) := by
  induction alike with
  | done holds => exact rest _ _ holds
  | ask question _ ih => exact .ask question ih

theorem bind_same (inquiry : Inquiry α) {next : α → Inquiry γ} {later : α → Inquiry δ}
    (rest : ∀ value, Alike other (next value) (later value)) :
    Alike other (inquiry >>= next) (inquiry >>= later) := by
  induction inquiry with
  | done value => exact rest value
  | ask question _ ih => exact .ask question ih

theorem ite {condition : Prop} [Decidable condition] {third : Inquiry α} {fourth : Inquiry β}
    (yes : Alike related first second) (no : Alike related third fourth) :
    Alike related (if condition then first else third) (if condition then second else fourth) := by
  split
  · exact yes
  · exact no

theorem runWith (alike : Alike related first second) (view : View) :
    related (first.runWith view) (second.runWith view) := by
  induction alike with
  | done holds => exact holds
  | ask question _ ih => exact ih (view question)

theorem memo (alike : Alike related first second)
    (answer : (question : Question) → Memo → question.Answer × Memo) (memo : Memo) :
    (first.runFrom answer memo).2 = (second.runFrom answer memo).2 := by
  induction alike generalizing memo with
  | done _ => rfl
  | ask question _ ih => exact ih _ _

end Alike

end Inquiry

open Inquiry (Alike)

namespace Chain

/-- A chain that is exempt also if `exempt` says so. -/
def exempting (chain : Chain) (exempt : Bool) : Chain :=
  { chain with suppressed := chain.suppressed || exempt }

/-- Does a chain start at one of some functions, or lie in the body of one? -/
def concerns (funcs : FuncId → Bool) (cursor : Cursor) (chain : Chain) : Bool :=
  chain.root.func.any funcs || cursor.enclosingFunctions.any funcs

end Chain

/-- Is a finding about a chain that starts at one of some functions or lies in the body of one? -/
def Finding.concerns (funcs : FuncId → Bool) (finding : Finding) : Bool :=
  finding.origin.any fun origin => origin.chain.concerns funcs origin.cursor

theorem Cursor.enclosingFunctions_climbFrom {fits : Frame → Bool}
    (inner : ∀ head declares doc receiver, fits (.body head declares doc receiver) = false)
    (node : Node) (path : List Frame) :
    (climbFrom fits node path).enclosingFunctions = enclosingFunctions { node, path } := by
  induction path generalizing node with
  | nil => rfl
  | cons frame path ih =>
    unfold climbFrom
    split
    next fit =>
      rw [ih]
      cases frame with
      | body head declares doc receiver =>
        rw [inner] at fit
        cases fit
      | _ => rfl
    next => rfl

namespace Scene

variable {scene : Scene} {name : QualifiedName}

def ignoring (scene : Scene) (name : QualifiedName) : Scene :=
  { scene with markers := scene.markers.ignoring name }

/-- How a chain at a position changes with the rule: it is exempt if it starts at a function without
another marker, or lies in one. -/
def Exempted (scene : Scene) (name : QualifiedName) (cursor : Cursor) (chain more : Option Chain) : Prop :=
  more = chain.map fun chain =>
    chain.exempting (chain.concerns (scene.markers.leavesOpen name) cursor)

variable (free : scene.markers.Free name)
include free

theorem message?_ignoring : (scene.ignoring name).message? = scene.message? := by
  funext func
  cases func with
  | none => rfl
  | some func => exact Markers.entryPoint?_ignoring free func

theorem root_ignoring : (scene.ignoring name).root = scene.root := by
  funext receiver base
  cases base with
  | operand node =>
    simp only [root, operandRoot, message?_ignoring free]
    rfl
  | methodExpr node type method => rfl

theorem isSuppressed_ignoring (cursor : Cursor) (root : Root) :
    (scene.ignoring name).isSuppressed cursor root =
      (scene.isSuppressed cursor root || (root.func.any (scene.markers.leavesOpen name) ||
        cursor.enclosingFunctions.any (scene.markers.leavesOpen name))) := by
  have ignores : (scene.ignoring name).markers.ignores =
      fun func => scene.markers.ignores func || scene.markers.leavesOpen name func :=
    funext (Markers.ignores_ignoring free)
  have started : root.func.any (scene.ignoring name).markers.ignores =
      (root.func.any scene.markers.ignores || root.func.any (scene.markers.leavesOpen name)) := by
    rw [ignores]
    cases root.func <;> rfl
  have inside : cursor.enclosingFunctions.any (scene.ignoring name).markers.ignores =
      (cursor.enclosingFunctions.any scene.markers.ignores ||
        cursor.enclosingFunctions.any (scene.markers.leavesOpen name)) := by
    rw [ignores]
    induction cursor.enclosingFunctions with
    | nil => rfl
    | cons func funcs ih =>
      simp only [List.any_cons, ih]
      ac_rfl
  simp only [isSuppressed, started, inside]
  change (_ || _ || scene.file.nolintAt _ || scene.file.nolintAt _ || (_ || _) ||
    cursor.statementStart?.any scene.file.nolintAt) = _
  ac_rfl

theorem finish_ignoring (cursor : Cursor) (root : Root) (steps : List Step) (reference : Bool) :
    (scene.ignoring name).finish cursor root steps reference =
      let chain := scene.finish cursor root steps reference
      chain.exempting (chain.concerns (scene.markers.leavesOpen name) cursor) := by
  simp only [finish, isSuppressed_ignoring free]
  rfl

/-- Extraction asks the same, and finds the same chain at a position up to its exemption. -/
theorem chainAt_alike (cursor : Cursor) (reference : Bool) :
    Alike (scene.Exempted name cursor) (scene.chainAt cursor reference)
      ((scene.ignoring name).chainAt cursor reference) := by
  have roots : (scene.ignoring name).root = scene.root := root_ignoring free
  unfold chainAt
  rw [roots]
  refine Alike.bind_same _ fun spine => Alike.bind_same _ fun kept => ?_
  refine Alike.ite (.done ?_) (.done rfl)
  rw [Exempted, finish_ignoring free]
  rfl

theorem entryReference_alike (cursor : Cursor) (use : Option FuncId) :
    Alike (scene.Exempted name cursor) (scene.entryReference cursor use)
      ((scene.ignoring name).entryReference cursor use) := by
  have enclosing : (scene.decls.instantiated cursor).enclosingFunctions = cursor.enclosingFunctions :=
    Cursor.enclosingFunctions_climbFrom (fun _ _ _ _ => rfl) cursor.node cursor.path
  unfold entryReference
  rw [message?_ignoring free]
  split
  next func message _ =>
    refine Alike.ite (.done rfl) (Alike.bind_same _ fun builder => ?_)
    refine Alike.ite (.done ?_) (.done rfl)
    simp only [Exempted, finish_ignoring free, Chain.concerns, Option.map_some]
    rw [← enclosing]
    rfl
  next => exact .done rfl

theorem chain?_alike (cursor : Cursor) :
    Alike (scene.Exempted name cursor) (scene.chain? cursor) ((scene.ignoring name).chain? cursor) := by
  unfold chain?
  split
  next =>
    refine Alike.bind_same _ fun element => Alike.ite ?_ (.done rfl)
    exact Alike.bind_same _ fun further => Alike.ite (.done rfl) (chainAt_alike free cursor false)
  next => exact entryReference_alike free cursor _
  next => exact entryReference_alike free cursor _
  next =>
    refine Alike.bind_same _ fun builder => Alike.ite ?_ (.done rfl)
    split
    next =>
      exact Alike.bind_same _ fun further => Alike.ite (.done rfl) (chainAt_alike free cursor false)
    next => exact Alike.ite (.done rfl) (chainAt_alike free cursor true)
  next => exact .done rfl

theorem chainsAt_alike (cursors : List Cursor) :
    Alike (List.Forall₂ fun chain more => ∃ exempt, more = chain.exempting exempt)
      (scene.chainsAt cursors) ((scene.ignoring name).chainsAt cursors) := by
  induction cursors with
  | nil => exact .done .nil
  | cons cursor cursors ih =>
    refine (chain?_alike free cursor).bind fun chain more same => ih.bind fun rest others like => .done ?_
    rw [same]
    cases chain with
    | none => exact like
    | some chain => exact .cons ⟨_, rfl⟩ like

theorem located_ignoring (view : View) :
    (scene.ignoring name).located view = (scene.located view).map fun (cursor, chain) =>
      (cursor, chain.exempting (chain.concerns (scene.markers.leavesOpen name) cursor)) := by
  rw [located, located, List.map_filterMap]
  refine List.filterMap_congr fun cursor _ => ?_
  rw [(chain?_alike free cursor).runWith view, Option.map_map, Option.map_map]
  rfl

end Scene

namespace Chain

variable {markers : Markers} {name : QualifiedName} (free : markers.Free name)
include free

theorem moves_ignoring (steps : List Step) : moves (markers.ignoring name) steps = moves markers steps := by
  have messages (method : Option FuncId) :
      (method.map fun func => ((markers.ignoring name).of func).message) =
        method.map fun func => (markers.of func).message := by
    simp only [Markers.message_ignoring free]
  induction steps with
  | nil => rfl
  | cons step steps ih =>
    simp only [moves, ih, messages]
    rfl

theorem course?_ignoring (chain : Chain) : chain.course? (markers.ignoring name) = chain.course? markers := by
  simp only [course?, moves_ignoring free]
  rfl

theorem tracked_ignoring (view : View) (chain : Chain) :
    chain.tracked view (markers.ignoring name) = chain.tracked view markers := by
  simp only [tracked, course?_ignoring free]
  rfl

/-- Whether a chain is exempt is looked at when all questions have been asked. -/
theorem obligations_alike (chain : Chain) (exempt : Bool) :
    Alike (fun _ _ => True) (chain.obligations markers)
      ((chain.exempting exempt).obligations (markers.ignoring name)) := by
  have course : (chain.exempting exempt).course? (markers.ignoring name) = chain.course? markers :=
    course?_ignoring free (chain.exempting exempt)
  unfold obligations
  rw [course]
  refine Alike.bind_same _ fun course => ?_
  cases course with
  | none => exact .done trivial
  | some course =>
    simp only
    exact Alike.ite (Alike.bind_same _ fun accepts => .done trivial) (.done trivial)

theorem allObligations_alike {chains others : List Chain}
    (like : List.Forall₂ (fun chain more => ∃ exempt, more = chain.exempting exempt) chains others) :
    Alike (fun _ _ => True) (allObligations markers chains)
      (allObligations (markers.ignoring name) others) := by
  induction like with
  | nil => exact .done trivial
  | cons same _ ih =>
    obtain ⟨exempt, rfl⟩ := same
    exact (obligations_alike free _ exempt).bind fun _ _ _ => ih.bind fun _ _ _ => .done trivial

theorem findingsAt_ignoring (view : View) (wording : Wording) (number : Nat) (cursor : Cursor)
    (chain : Chain) :
    (chain.exempting (chain.concerns (markers.leavesOpen name) cursor)).findingsAt view
        (markers.ignoring name) wording number cursor =
      (chain.findingsAt view markers wording number cursor).filter
        fun finding => !finding.concerns (markers.leavesOpen name) := by
  have concerns : ∀ finding ∈ chain.findingsAt view markers wording number cursor,
      finding.concerns (markers.leavesOpen name) = chain.concerns (markers.leavesOpen name) cursor := by
    intro finding member
    obtain ⟨entry, -, found⟩ := List.mem_filterMap.mp member
    obtain ⟨diagnostic, -, rfl⟩ := Option.map_eq_some_iff.mp found
    rfl
  cases exempt : chain.concerns (markers.leavesOpen name) cursor with
  | true =>
    have gone := findings_of_suppressed view (markers.ignoring name) wording number (chain.exempting true)
      (Bool.or_true _)
    rw [← map_findingsAt view (markers.ignoring name) wording number cursor, List.map_eq_nil_iff] at gone
    rw [gone, eq_comm, List.filter_eq_nil_iff]
    intro finding member
    simp [concerns finding member, exempt]
  | false =>
    have kept : chain.exempting false = chain := by simp [exempting]
    rw [kept, findingsAt, tracked_ignoring free, ← findingsAt, eq_comm, List.filter_eq_self]
    intro finding member
    simp [concerns finding member, exempt]

end Chain

namespace Configuration

variable (configuration : Configuration) {markers : Markers} {name : QualifiedName}
  (free : markers.Free name)
include free

theorem checkFile_alike (number : Nat) (file : SourceFile) :
    Alike (fun _ _ => True) (configuration.checkFile markers number file)
      (configuration.checkFile (markers.ignoring name) number file) := by
  refine Alike.ite (.done trivial) (Alike.ite (.done trivial) ?_)
  refine (@Scene.chainsAt_alike { markers, file } name free _).bind fun chains others like => ?_
  exact (Chain.allObligations_alike free like).bind fun _ _ _ => .done trivial

theorem checkFiles_alike (number : Nat) (files : List SourceFile) :
    Alike (fun _ _ => True) (configuration.checkFiles markers number files)
      (configuration.checkFiles (markers.ignoring name) number files) := by
  induction files generalizing number with
  | nil => exact .done trivial
  | cons file files ih =>
    exact (configuration.checkFile_alike free number file).bind fun _ _ _ =>
      (ih (number + 1)).bind fun _ _ _ => .done trivial

theorem fileAccount_ignoring (view : View) (number : Nat) (file : SourceFile) :
    configuration.fileAccount view (markers.ignoring name) number file =
      (configuration.fileAccount view markers number file).filter
        fun finding => !finding.concerns (markers.leavesOpen name) := by
  unfold fileAccount
  split
  next => rfl
  next =>
    split
    next => rfl
    next =>
      have located := @Scene.located_ignoring { markers, file } name free view
      rw [Scene.ignoring] at located
      rw [located, List.flatMap_map, List.filter_flatMap]
      refine congrArg (List.flatMap · _) (funext fun item => ?_)
      exact Chain.findingsAt_ignoring free view configuration.wording number item.1 item.2

end Configuration

namespace IndexInput

variable (input : IndexInput) {func : String} {name : QualifiedName}

/-- Both checks with the same order of visits. -/
theorem checkPackage_ignoring (read : QualifiedName.parse func = .ok name)
    (unnamed : ¬ input.rules.Names name) (exported : input.program.HandsOn input.handedOn)
    (configuration : Configuration) (package : Package) :
    configuration.checkPackage (input.ignoring func).build package =
      ((configuration.account input.build package).filter
        fun finding => !finding.concerns (input.markers.leavesOpen name)).map Finding.diagnostic := by
  have free : input.build.index.markers.Free name := free_of_unnamed read unnamed exported
  have memo : configuration.memoAfterCheck (input.ignoring func).build package =
      configuration.memoAfterCheck input.build package := by
    rw [build_ignoring read unnamed exported, Configuration.memoAfterCheck, Configuration.memoAfterCheck,
      Index.run_ignoring free]
    exact ((configuration.checkFiles_alike free 0 package.files).memo _ _).symm
  have account : configuration.account (input.ignoring func).build package =
      (configuration.account input.build package).filter
        fun finding => !finding.concerns (input.markers.leavesOpen name) := by
    rw [Configuration.account, memo, build_ignoring read unnamed exported, Index.view_ignoring free,
      Configuration.account, List.filter_append, List.filter_flatMap]
    congr 1
    · rw [eq_comm, List.filter_eq_self]
      intro finding member
      split at member
      · obtain ⟨declaration, -, rfl⟩ := List.mem_map.mp member
        rfl
      · cases member
    · refine congrArg (List.flatMap · _) (funext fun item => ?_)
      exact configuration.fileAccount_ignoring free _ item.2 item.1
  rw [← Configuration.map_account, account]

/-- The answers that a check has been given in the end, where all methods settle. -/
theorem view_memoAfterCheck (settled : input.terminalRules.Settled []) (configuration : Configuration)
    (package : Package) :
    input.build.index.view (configuration.memoAfterCheck input.build package) = input.build.index.view [] := by
  obtain ⟨asked, after⟩ := input.build.index.run_after
    (configuration.checkFiles input.build.index.markers 0 package.files) input.build.memo
  rw [Configuration.memoAfterCheck, after]
  exact input.build.index.view_settled settled (input.faithful_memoAfter settled asked)

theorem account_visiting (settled : input.terminalRules.Settled []) (order : VisitOrder)
    (configuration : Configuration) (package : Package) :
    configuration.account (input.visiting order).build package =
      configuration.account input.build package := by
  rw [Configuration.account, Configuration.account, (input.visiting order).view_memoAfterCheck settled,
    input.view_memoAfterCheck settled, input.declarations_visiting settled, input.index_visiting settled]

/-- A rule for ignored functions, added to rules that do not name them, takes away diagnostics and
changes nothing else, if the check with the rule visits the types in the same order as the check without
it, or if every terminal method settles. Of the diagnostics without the rule, in their order, those are
left that are not about a chain that starts at a function of that name without a marker, or that lies in
the body of one. All methods settle if none redeclares itself by way of others, and so if no struct
embeds itself by way of others. -/
theorem ignoring_removes_exactly (read : QualifiedName.parse func = .ok name)
    (unnamed : ¬ input.rules.Names name) (exported : input.program.HandsOn input.handedOn)
    (configuration : Configuration) (package : Package) :
    (configuration.account input.build package).map Finding.diagnostic =
      configuration.checkPackage input.build package ∧
    (∀ order, order = input.order ∨ input.terminalRules.Settled [] →
      configuration.checkPackage ((input.ignoring func).visiting order).build package =
        ((configuration.account input.build package).filter
          fun finding => !finding.concerns (input.markers.leavesOpen name)).map Finding.diagnostic) ∧
    ((∀ func, ¬ Relation.TransGen input.terminalRules.Redeclares func func) →
      input.terminalRules.Settled []) ∧
    (input.program.decls.WellReceived → input.program.decls.AcyclicEmbedding →
      input.terminalRules.Settled []) := by
  refine ⟨configuration.map_account input.build package, ?_, fun once func terminal => ?_,
    fun received acyclic => TerminalRules.settled_of_acyclicEmbedding received acyclic []⟩
  · rintro order (rfl | settled)
    · exact input.checkPackage_ignoring read unnamed exported configuration package
    · -- The rule can as well be added to the check with the other order.
      have other := (input.visiting order).checkPackage_ignoring read unnamed exported configuration package
      rw [input.account_visiting settled order configuration package] at other
      exact other
  · exact TerminalRules.settles_of_acyclic once (fun _ member => nomatch member) terminal

end IndexInput

namespace Sample

/-- A function `use` that drops a builder in a function literal, and another function that drops one. -/
def careless : SourceFile :=
  { fileOf [] with
    decls := [
      .funcDecl ⟨12, 40, none⟩ (some 3) [] none
        (some (.discard ⟨20, 39, none⟩ .expression
          (.funcLit ⟨20, 39, none⟩ (.discard (newCall 25).head .expression (newCall 25))))),
      .funcDecl ⟨42, 59, none⟩ none [] none
        (some (.discard (newCall 45).head .expression (newCall 45)))] }

def carelessInput : IndexInput :=
  { inputOf careless with
    program :=
      { decls := { library with
          functions := library.functions ++
            [{ name := "use", package := some 0, type := 2, receiver := none, typeParams := [],
               receiverParams := [] }] }
        packages := [packageOf careless, libraryPackage] } }

/-- The last type that is found is asked first. -/
def lastFirst : VisitOrder := { arrange := List.reverse, perm := List.reverse_perm }

theorem careless_once (func : FuncId) : ¬ Relation.TransGen carelessInput.terminalRules.Redeclares func func := by
  have none : ∀ func < 4, carelessInput.terminalRules.redeclared func = [] := by decide +kernel
  intro round
  obtain ⟨other, redeclares, -⟩ := Relation.TransGen.head'_iff.mp round
  rw [TerminalRules.Redeclares, none func (TerminalRules.lt_of_mem_redeclared redeclares)] at redeclares
  cases redeclares

/-- A rule for `app.use` takes away the first of two diagnostics, in whichever order types are visited. -/
theorem careless_ignored :
    QualifiedName.parse "app.use" = .ok ⟨"app", none, "use"⟩ ∧
      ¬ carelessInput.rules.Names ⟨"app", none, "use"⟩ ∧
      carelessInput.program.HandsOn carelessInput.handedOn ∧
      (∀ func, ¬ Relation.TransGen carelessInput.terminalRules.Redeclares func func) ∧
      (Configuration.default.checkPackage carelessInput.build (packageOf careless)).map
        (fun diagnostic => diagnostic.place.start) = [25, 45] ∧
      (Configuration.default.checkPackage ((carelessInput.ignoring "app.use").visiting lastFirst).build
        (packageOf careless)).map (fun diagnostic => diagnostic.place.start) = [45] := by
  have read : QualifiedName.parse "app.use" = .ok ⟨"app", none, "use"⟩ := by decide +kernel
  have unnamed : ¬ carelessInput.rules.Names ⟨"app", none, "use"⟩ := by
    rintro ⟨rule, listed, -⟩
    cases listed
  have exported : carelessInput.program.HandsOn carelessInput.handedOn := fun entry member =>
    ⟨1, (by decide +kernel : ∀ entry ∈ carelessInput.handedOn, entry ∈ carelessInput.program.exportedBy 1)
      entry member⟩
  obtain ⟨before, after, settled, -⟩ := carelessInput.ignoring_removes_exactly read unnamed exported .default
    (packageOf careless)
  refine ⟨read, unnamed, exported, careless_once, ?_, ?_⟩
  · rw [← before]
    decide +kernel
  · rw [after lastFirst (Or.inr (settled careless_once))]
    decide +kernel

/-- A function that calls `New().M()`, and the directives of `New` and of the method of `T`. -/
def circlingFile : SourceFile :=
  { packageName := "app"
    start := 0
    stop := 100
    lines := LineTable.ofStarts? 100 [0]
    comments := []
    doc := []
    decls := [
      .funcDecl ⟨20, 30, none⟩ (some 0) [⟨10, "//endcheck:end"⟩] none none,
      .funcDecl ⟨50, 60, none⟩ (some 4) [⟨40, "//endcheck:start"⟩] none none,
      .funcDecl ⟨70, 99, none⟩ none [] none
        (some (.discard ⟨80, 89, none⟩ .expression
          (.call ⟨80, 89, none⟩
            (.selector ⟨80, 87, some (.plain 8)⟩
              (.call ⟨80, 85, some (.plain 6)⟩
                (.ident ⟨⟨80, 83, some (.plain 10)⟩, "New", some 4, none⟩) [] false)
              ⟨⟨86, 87, none⟩, "M", some 2, none⟩
              (some { kind := .methodValue, receiver := .plain 6, method := some 2 })) [] false)))] }

def circlingPackage : Package := { imports := [], scope := [], files := [circlingFile] }

/-- Two structs `A` and `B` that embed each other, `A` also a type `T` with a terminal method, and all
with a method `M`. `New` yields a `B`, and a method of `B` an `A`. -/
def circling : IndexInput :=
  { program :=
      { decls :=
          { packagePaths := ["app"]
            types := #[
              .declared { name := "A", package := some 0, underlying := 3, methods := [1], typeParams := [] },
              .declared { name := "B", package := some 0, underlying := 4, methods := [2, 3], typeParams := [] },
              .declared { name := "T", package := some 0, underlying := 5, methods := [0], typeParams := [] },
              .literal (.struct (some 0) [⟨"B", true, "", 6⟩, ⟨"T", true, "", 2⟩]),
              .literal (.struct (some 0) [⟨"A", true, "", 7⟩]),
              .literal (.struct none []),
              .literal (.pointer 1),
              .literal (.pointer 0),
              .literal (.func { params := [], results := [], variadic := false }),
              .literal (.func { params := [], results := [7], variadic := false }),
              .literal (.func { params := [], results := [6], variadic := false })]
            functions := [
              { name := "M", package := some 0, type := 8, receiver := some 2, typeParams := [],
                receiverParams := [] },
              { name := "M", package := some 0, type := 8, receiver := some 7, typeParams := [],
                receiverParams := [] },
              { name := "M", package := some 0, type := 8, receiver := some 6, typeParams := [],
                receiverParams := [] },
              { name := "Next", package := some 0, type := 9, receiver := some 6, typeParams := [],
                receiverParams := [] },
              { name := "New", package := some 0, type := 10, receiver := none, typeParams := [],
                receiverParams := [] }] }
        packages := [circlingPackage] }
    package := 0
    rules := .none
    handedOn := []
    order := .asFound }

/-- Without a rule `B` is asked first, its method `M` is terminal, and there is no diagnostic. A rule for a
function that there is not takes nothing away, but if `A` is asked first, `M` of `B` is not terminal, and
there is a diagnostic. -/
theorem circling_added :
    QualifiedName.parse "app.Unrelated" = .ok ⟨"app", none, "Unrelated"⟩ ∧
      ¬ circling.rules.Names ⟨"app", none, "Unrelated"⟩ ∧
      circling.program.HandsOn circling.handedOn ∧
      Configuration.default.checkPackage circling.build circlingPackage = [] ∧
      (Configuration.default.checkPackage ((circling.ignoring "app.Unrelated").visiting lastFirst).build
        circlingPackage).map (fun diagnostic => diagnostic.place.start) = [80] := by
  have exported : circling.program.HandsOn circling.handedOn := fun _ member => nomatch member
  refine ⟨by decide +kernel, ?_, exported, ?_, by decide +kernel⟩
  · rintro ⟨rule, listed, -⟩
    cases listed
  · rw [← List.length_eq_zero_iff]
    decide +kernel

end Sample

end Fluent
