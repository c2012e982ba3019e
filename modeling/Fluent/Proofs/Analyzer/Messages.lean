import Fluent.Proofs.Analyzer.Account
import Fluent.Proofs.Index.Eligibility
import Fluent.Proofs.Index.Names
import Fluent.Proofs.Obligation.Grounds

/-! What the messages of diagnostics are founded on.

A message of its own comes to an obligation from an entry point. Without one, the methods are
listed that complete the builder at which the obligation was last open. The check has asked for
the facts of that builder, so they were fixed by then and name at least one terminal method. -/

set_option autoImplicit false

namespace Fluent

open Inquiry (View)

namespace Inquiry

variable {α β : Type}

/-- The questions that an inquiry asks, against fixed answers. -/
def asked (view : View) : Inquiry α → List Question
  | .done _ => []
  | .ask question next => question :: (next (view question)).asked view

theorem asked_bind (view : View) (inquiry : Inquiry α) (next : α → Inquiry β) :
    (inquiry >>= next).asked view = inquiry.asked view ++ (next (inquiry.runWith view)).asked view := by
  induction inquiry with
  | done value => rfl
  | ask question rest ih => exact congrArg (question :: ·) (ih (view question))

@[simp] theorem mem_asked_bind {view : View} {inquiry : Inquiry α} {next : α → Inquiry β}
    {question : Question} : question ∈ (inquiry >>= next).asked view ↔
      question ∈ inquiry.asked view ∨ question ∈ (next (inquiry.runWith view)).asked view := by
  rw [asked_bind, List.mem_append]

theorem asked_factsOf {decls : Declarations} {type : Option Ty} {id : NamedId} (view : View)
    (base : type.bind decls.base? = some id) :
    (factsOf decls type).asked view = [.facts id] ∧ (factsOf decls type).runWith view = view (.facts id) := by
  unfold factsOf
  rw [base]
  exact ⟨rfl, rfl⟩

end Inquiry

/-- The answer to what a run has asked is fixed when the run is over. -/
theorem Index.fixed_of_asked (index : Index) {α : Type} {inquiry : Inquiry α} {memo later : Memo}
    (extended : later.Extends (index.run inquiry memo).2) {question : Question}
    (asked : question ∈ inquiry.asked (index.view later)) :
    ∃ before, later.Extends (index.answer question before).2 := by
  induction inquiry generalizing memo with
  | done value => cases asked
  | ask first next ih =>
    have settled := extended.trans (index.run_extends (next _) (index.answer first memo).2)
    rcases List.mem_cons.mp asked with rfl | asked
    · exact ⟨memo, settled⟩
    · have same : index.view later first = (index.answer first memo).1 := by
        rw [view, index.answer_later first settled]
      rw [same] at asked
      exact ih _ extended asked

/-- Is a root without a message, or one that has the message of its entry point? -/
def Root.Worded (markers : Markers) (root : Root) : Prop :=
  root.message = [] ∨ ∃ func, root.func = some func ∧ markers.entryPoint? func = some root.message

namespace Scene

variable (scene : Scene) {view : View}

theorem worded_of_message? {root : Root} (entry : scene.message? root.func = some root.message) :
    root.Worded scene.markers := by
  obtain ⟨func, same, given⟩ := Option.bind_eq_some_iff.mp entry
  exact Or.inr ⟨func, same, given⟩

theorem worded_root (receiver : Option VarId) (base : SpineEnd) :
    (scene.root receiver base).Worded scene.markers := by
  cases base with
  | methodExpr node type method => exact Or.inl rfl
  | operand node =>
    unfold root operandRoot
    simp only
    split
    next =>
      split
      next => exact Or.inl rfl
      next =>
        split
        next entry => exact scene.worded_of_message? entry
        next => exact Or.inl rfl
    next => exact Or.inl rfl
    next =>
      split
      next => split <;> exact Or.inl rfl
      next => exact Or.inl rfl
    next => split <;> exact Or.inl rfl
    next => exact Or.inl rfl

theorem worded_entryReference {cursor : Cursor} {use : Option FuncId} {chain : Chain}
    (found : (scene.entryReference cursor use).runWith view = some chain) :
    chain.root.Worded scene.markers := by
  unfold entryReference at found
  split at found
  next func message entry =>
    simp only [Inquiry.runWith_ite, Inquiry.runWith_bind, Inquiry.runWith_pure] at found
    split at found
    next => cases found
    next =>
      split at found
      next =>
        cases found
        exact scene.worded_of_message? entry
      next => cases found
  next => cases found

/-- The message of a chain's root is that of an entry point. -/
theorem worded_chain? {cursor : Cursor} {chain : Chain}
    (found : (scene.chain? cursor).runWith view = some chain) : chain.root.Worded scene.markers := by
  rw [runWith_chain?] at found
  split at found
  next =>
    rw [runWith_chainAt] at found
    split at found
    next =>
      cases found
      exact scene.worded_root _ _
    next => cases found
  next =>
    unfold mention at found
    split at found
    next => exact scene.worded_entryReference found
    next => exact scene.worded_entryReference found
    next => cases found

end Scene

namespace Chain

variable {view : View} {markers : Markers}

theorem move?_eq_some {step : Step} {move : Move} (moves : move? view markers step = some move) :
    step.result.bind markers.decls.base? = some move.type ∧
      (Inquiry.factsOf markers.decls step.result).runWith view = some move.facts ∧
      move.message = (step.method.map fun func => (markers.of func).message).getD [] := by
  unfold move? at moves
  split at moves
  next base facts =>
    cases moves
    exact ⟨base, facts, rfl⟩
  next => cases moves

/-- Each move is that of a step, and its facts have been asked for. -/
theorem move_grounds {steps : List Step} {move : Move}
    (member : move ∈ ((moves markers steps).runWith view).1) :
    ∃ step ∈ steps, move? view markers step = some move ∧
      .facts move.type ∈ (moves markers steps).asked view := by
  induction steps with
  | nil => cases member
  | cons step steps ih =>
    rw [runWith_moves_cons] at member
    cases moved : move? view markers step with
    | none =>
      rw [moved] at member
      cases member
    | some first =>
      rw [moved] at member
      obtain ⟨base, facts, -⟩ := move?_eq_some moved
      rcases List.mem_cons.mp member with rfl | member
      · refine ⟨step, List.mem_cons_self, moved, ?_⟩
        simp only [moves, Inquiry.mem_asked_bind, (Inquiry.asked_factsOf view base).1]
        exact Or.inr (Or.inl (List.mem_singleton_self _))
      · obtain ⟨other, listed, same, asked⟩ := ih member
        refine ⟨other, List.mem_cons_of_mem _ listed, same, ?_⟩
        simp only [moves, Inquiry.mem_asked_bind, base, facts]
        exact Or.inr (Or.inr (Or.inl asked))

variable {chain : Chain} {course : Course}

theorem course?_eq_some (found : (chain.course? markers).runWith view = some course) :
    chain.root.type.bind markers.decls.base? = some course.root.type ∧
      (Inquiry.factsOf markers.decls chain.root.type).runWith view = some course.root.facts ∧
      course.root.message = chain.root.message ∧
      course.moves = ((moves markers chain.steps).runWith view).1 := by
  simp only [course?, Inquiry.runWith_bind] at found
  split at found
  next base facts =>
    simp only [Inquiry.runWith_bind, Inquiry.runWith_pure] at found
    cases found
    exact ⟨base, facts, rfl, rfl⟩
  next => cases found

/-- The facts of the root and of all moves have been asked for. -/
theorem asked_course? (found : (chain.course? markers).runWith view = some course) {id : NamedId}
    (grounds : id = course.root.type ∨ ∃ move ∈ course.moves, id = move.type) :
    .facts id ∈ (chain.course? markers).asked view := by
  obtain ⟨base, facts, -, walk⟩ := course?_eq_some found
  simp only [course?, Inquiry.mem_asked_bind, (Inquiry.asked_factsOf view base).1, base, facts]
  rcases grounds with rfl | ⟨move, member, rfl⟩
  · exact Or.inl (List.mem_singleton_self _)
  · rw [walk] at member
    obtain ⟨-, -, -, asked⟩ := move_grounds member
    exact Or.inr (Or.inr (Or.inl asked))

theorem asked_obligations {question : Question} (asked : question ∈ (chain.course? markers).asked view) :
    question ∈ (chain.obligations markers).asked view := by
  rw [obligations, Inquiry.mem_asked_bind]
  exact Or.inl asked

theorem asked_allObligations {chains : List Chain} (member : chain ∈ chains) {question : Question}
    (asked : question ∈ (chain.obligations markers).asked view) :
    question ∈ (allObligations markers chains).asked view := by
  induction chains with
  | nil => cases member
  | cons first chains ih =>
    simp only [allObligations, Inquiry.mem_asked_bind]
    rcases List.mem_cons.mp member with rfl | member
    · exact Or.inl asked
    · exact Or.inr (Or.inl (ih member))

/-- Is a function called or referred to along a chain? -/
def Involves (chain : Chain) (func : FuncId) : Prop :=
  chain.root.func = some func ∨ ∃ step ∈ chain.steps, step.method = some func

/-- A message that an obligation of a chain has comes from an entry point of the chain. -/
theorem message_of_lastOpen (root : chain.root.Worded markers)
    (proper : ∀ func, (markers.of func).message ≠ [] → (markers.of func).kind = .entryPoint)
    (found : (chain.course? markers).runWith view = some course) {number : Nat} {pending : Pending}
    (lastOpen : course.LastOpen number pending) : pending.message = [] ∨
      ∃ func, chain.Involves func ∧ markers.entryPoint? func = some pending.message := by
  obtain ⟨-, -, message, walk⟩ := course?_eq_some found
  refine (lastOpen.grounds (fun _ _ => True) (fun message => message = [] ∨
    ∃ func, chain.Involves func ∧ markers.entryPoint? func = some message) ⟨trivial, ?_⟩ ?_).2
  · rw [message]
    exact root.imp_right fun ⟨func, same, entry⟩ => ⟨func, Or.inl same, entry⟩
  · intro move member
    rw [walk] at member
    obtain ⟨step, listed, moved, -⟩ := move_grounds member
    refine ⟨trivial, ?_⟩
    rw [(move?_eq_some moved).2.2]
    cases method : step.method with
    | none => exact Or.inl rfl
    | some func =>
      rw [Option.map_some, Option.getD_some]
      by_cases silent : (markers.of func).message = []
      · exact Or.inl silent
      · refine Or.inr ⟨func, Or.inr ⟨step, listed, method⟩, ?_⟩
        simp [Markers.entryPoint?, proper func silent]

/-- The facts of an obligation are those of the type at which it was last open. -/
theorem facts_of_lastOpen (found : (chain.course? markers).runWith view = some course) {number : Nat}
    {pending : Pending} (lastOpen : course.LastOpen number pending) :
    view (.facts pending.type) = some pending.facts ∧
      .facts pending.type ∈ (chain.course? markers).asked view := by
  obtain ⟨base, facts, -, walk⟩ := course?_eq_some found
  refine (lastOpen.grounds (fun type facts => view (.facts type) = some facts ∧
    .facts type ∈ (chain.course? markers).asked view) (fun _ => True) ⟨⟨?_, ?_⟩, trivial⟩ ?_).1
  · rw [← (Inquiry.asked_factsOf view base).2, facts]
  · exact asked_course? found (Or.inl rfl)
  · intro move member
    refine ⟨⟨?_, asked_course? found (Or.inr ⟨move, member, rfl⟩)⟩, trivial⟩
    rw [walk] at member
    obtain ⟨step, -, moved, -⟩ := move_grounds member
    obtain ⟨base, facts, -⟩ := move?_eq_some moved
    rw [← (Inquiry.asked_factsOf view base).2, facts]

theorem lastOpen_of_tracked {number : Nat} {obligation : Obligation}
    (member : (number, obligation) ∈ chain.tracked view markers) :
    ∃ course pending, (chain.course? markers).runWith view = some course ∧
      course.LastOpen number pending ∧ obligation.facts = pending.facts ∧
      obligation.message = pending.message := by
  unfold tracked at member
  split at member
  next => cases member
  next course found =>
    obtain ⟨⟨number, before⟩, isTracked, same⟩ := List.mem_map.mp member
    obtain ⟨rfl, rfl⟩ := Prod.mk.inj same
    obtain ⟨pending, lastOpen, facts, message⟩ := Course.lastOpen_of_tracked isTracked
    refine ⟨course, pending, found, lastOpen, ?_, ?_⟩
    · obtain ⟨same, -⟩ | ⟨-, -, same⟩ := chain.excuse_cases before <;> rw [same] <;> exact facts
    · obtain ⟨same, -⟩ | ⟨-, -, same⟩ := chain.excuse_cases before <;> rw [same] <;> exact message

end Chain

namespace Configuration

variable (configuration : Configuration) {view : View} {markers : Markers} {question : Question}

theorem asked_checkFile {file : SourceFile} (positions : file.lines.isNone = false)
    (kept : configuration.skips file = false) {chain : Chain}
    (member : chain ∈ (Scene.chains { markers, file }).runWith view)
    (asked : question ∈ (chain.obligations markers).asked view) (number : Nat) :
    question ∈ (configuration.checkFile markers number file).asked view := by
  simp only [checkFile, positions, kept, Bool.false_eq_true, if_false, Inquiry.mem_asked_bind]
  exact Or.inr (Or.inl (Chain.asked_allObligations member asked))

theorem asked_checkFiles {files : List SourceFile} {first number : Nat} {file : SourceFile}
    (listed : (file, number) ∈ files.zipIdx first)
    (asked : question ∈ (configuration.checkFile markers number file).asked view) :
    question ∈ (configuration.checkFiles markers first files).asked view := by
  induction files generalizing first with
  | nil => cases listed
  | cons head files ih =>
    simp only [checkFiles, Inquiry.mem_asked_bind]
    rcases List.mem_cons.mp listed with same | listed
    · cases same
      exact Or.inl asked
    · exact Or.inr (Or.inl (ih listed))

/-- What a chain asks about in a check is fixed when the check is over. -/
theorem fixed_of_located {built : Built} {package : Package} {file : SourceFile} {number : Nat}
    (listed : (file, number) ∈ package.files.zipIdx) (positions : file.lines.isNone = false)
    (kept : configuration.skips file = false) {cursor : Cursor} {chain : Chain}
    (located : (cursor, chain) ∈ Scene.located { markers := built.index.markers, file }
      (built.index.view (configuration.memoAfterCheck built package)))
    (asked : question ∈ (chain.course? built.index.markers).asked
      (built.index.view (configuration.memoAfterCheck built package))) :
    ∃ before, (configuration.memoAfterCheck built package).Extends (built.index.answer question before).2 := by
  have extracted : chain ∈ (Scene.chains { markers := built.index.markers, file }).runWith
      (built.index.view (configuration.memoAfterCheck built package)) := by
    rw [Scene.runWith_chains]
    exact List.mem_map.mpr ⟨_, located, rfl⟩
  exact built.index.fixed_of_asked (Memo.Extends.refl _) (configuration.asked_checkFiles listed
    (configuration.asked_checkFile positions kept extracted (Chain.asked_obligations asked) number))

/-- The start of the default message. -/
def leadText : String := if configuration.lead = "" then defaultLead else configuration.lead

end Configuration

theorem Text.Bytes.ofString_append (first second : String) :
    Text.Bytes.ofString (first ++ second) = .ofString first ++ .ofString second := by
  rw [ofString, String.toList_append, ofChars, List.flatMap_append]
  rfl

/-- Names as in `A(), B() or C()`: the last one behind `or`, and commas between the others. -/
def spelledOut (others : List String) (last : String) : String :=
  if others = [] then last ++ "()"
  else String.intercalate ", " (others.map (· ++ "()")) ++ " or " ++ last ++ "()"

theorem listNames_append (others : List String) (last : String) :
    listNames (others ++ [last]) = spelledOut others last := by
  induction others with
  | nil => rfl
  | cons first others ih =>
    cases others with
    | nil => simp [listNames, spelledOut, String.append_assoc]
    | cons second others =>
      have rest : listNames (second :: others ++ [last]) = spelledOut (second :: others) last := ih
      have step : listNames (first :: second :: others ++ [last]) =
          first ++ "(), " ++ listNames (second :: others ++ [last]) := by
        cases others <;> rfl
      rw [step, rest]
      simp [spelledOut, String.intercalate_cons_cons, String.append_assoc]

theorem Text.Bytes.getLast?_ofString (first : String) {second : String}
    (present : Text.Bytes.ofString second ≠ []) :
    (Text.Bytes.ofString (first ++ second)).getLast? = (Text.Bytes.ofString second).getLast? := by
  rw [ofString_append, List.getLast?_append_of_ne_nil _ present]

/-- A list of names ends with a parenthesis, so it is not the text without names. -/
theorem spelledOut_ne (lead : String) (others : List String) (last : String) :
    Text.Bytes.ofString (lead ++ " " ++ spelledOut others last) ≠
      .ofString (lead ++ " a terminal method") := by
  have ends : ∃ text, spelledOut others last = text ++ "()" := by
    unfold spelledOut
    split
    · exact ⟨_, rfl⟩
    · exact ⟨_, rfl⟩
  obtain ⟨text, same⟩ := ends
  intro equal
  have lasts := congrArg List.getLast? equal
  rw [same, ← String.append_assoc, Text.Bytes.getLast?_ofString _ (by decide),
    Text.Bytes.getLast?_ofString _ (by decide)] at lasts
  exact absurd lasts (by decide)

theorem Wording.message_cases {wording : Wording} {obligation : Obligation}
    (named : obligation.facts.names ≠ []) :
    (obligation.message ≠ [] ∧ wording.message obligation = obligation.message) ∨
      (obligation.message = [] ∧ ∃ others last, obligation.facts.names = others ++ [last] ∧
        wording.message obligation =
          .ofString ((if wording.lead = "" then defaultLead else wording.lead) ++ " " ++
            spelledOut others last)) := by
  unfold message
  by_cases silent : obligation.message = []
  · refine Or.inr ⟨silent, obligation.facts.names.dropLast, obligation.facts.names.getLast named,
      (List.dropLast_append_getLast named).symm, ?_⟩
    rw [← listNames_append, List.dropLast_append_getLast named]
    simp only [silent, List.isEmpty_nil, if_true]
  · exact Or.inl ⟨silent, by simp [silent]⟩

theorem Obligation.message_of_diagnostic? {wording : Wording} {number : Nat} {obligation : Obligation}
    {diagnostic : Diagnostic} (reported : obligation.diagnostic? wording number = some diagnostic) :
    diagnostic.message = wording.message obligation := by
  unfold diagnostic? at reported
  split at reported
  · cases reported
    rfl
  · cases reported

namespace IndexInput

variable (input : IndexInput)

/-- Only entry points have messages of their own. -/
theorem entryPoint_of_message (valid : input.rules.errors = [])
    (exported : input.program.HandsOn input.handedOn) (func : FuncId)
    (worded : (input.markers.of func).message ≠ []) : (input.markers.of func).kind = .entryPoint := by
  rcases @markers_proper input valid exported func with proper | unmarked
  · exact proper.message worded
  · exact absurd (by rw [unmarked]; rfl) worded

/-- The messages of all diagnostics are well founded, apart from those about directives and about
files without positions. Such a message is the one, not empty, of an entry point that is called or
referred to along the chain. Or it lists, behind the usual start, names in strict order and at least
one, as in `A(), B() or C()`. Each is the name of a method that is terminal. The method belongs to the
type at which the obligation was last open or, if that is a stage, to a type that it leads to. -/
theorem messages_well_founded (valid : input.rules.errors = [])
    (exported : input.program.HandsOn input.handedOn) (configuration : Configuration) (package : Package) :
    (configuration.account input.build package).map Finding.diagnostic =
      configuration.checkPackage input.build package ∧
    ∀ finding ∈ configuration.account input.build package,
      let memo := configuration.memoAfterCheck input.build package
      (finding.origin = none ∧
        ∃ declaration ∈ input.build.declarations, finding.diagnostic = declaration.diagnostic) ∨
      (finding.origin = none ∧ ∃ file number, (file, number) ∈ package.files.zipIdx ∧
        finding.diagnostic = Configuration.withoutPositions number file) ∨
      ∃ origin, finding.origin = some origin ∧
        ((finding.diagnostic.message ≠ [] ∧ ∃ func, origin.chain.Involves func ∧
          input.markers.entryPoint? func = some finding.diagnostic.message) ∨
        ∃ course pending others last,
          (origin.chain.course? input.markers).runWith (input.build.index.view memo) = some course ∧
          course.LastOpen origin.number pending ∧
          finding.diagnostic.message =
            .ofString (configuration.leadText ++ " " ++ spelledOut others last) ∧
          finding.diagnostic.message ≠ .ofString (configuration.leadText ++ " a terminal method") ∧
          (others ++ [last]).Pairwise (· < ·) ∧
          ∀ name ∈ others ++ [last],
            input.terminalRules.Ends memo pending.type name ∨
            pending.facts.isStage = true ∧ ∃ target,
              Relation.ReflTransGen input.program.decls.LeadsTo pending.type target ∧
                input.terminalRules.Ends memo target name) := by
  refine ⟨configuration.map_account input.build package, ?_⟩
  intro finding member memo
  obtain declared | noPositions | ⟨origin, found, file, number, listed, positions, kept, located,
    tracked, reported⟩ := configuration.cases_of_mem_account member
  · exact Or.inl declared
  · exact Or.inr (Or.inl noPositions)
  refine Or.inr (Or.inr ⟨origin, found, ?_⟩)
  obtain ⟨course, pending, walked, lastOpen, facts, message⟩ := Chain.lastOpen_of_tracked tracked
  obtain ⟨known, asked⟩ := Chain.facts_of_lastOpen walked lastOpen
  obtain ⟨before, fixed⟩ := configuration.fixed_of_located listed positions kept located asked
  have kept : memo.Extends input.build.memo := input.build.index.run_extends _ input.build.memo
  obtain ⟨present, increasing, ends⟩ := @names_of_facts input memo kept pending.type pending.facts before
    fixed known
  rw [← facts] at present increasing ends
  have worded := Obligation.message_of_diagnostic? reported
  rcases @Wording.message_cases configuration.wording _ present with
    ⟨own, same⟩ | ⟨-, others, last, names, same⟩
  · refine Or.inl ⟨by rwa [worded, same], ?_⟩
    obtain ⟨cursor, -, given⟩ := List.mem_filterMap.mp located
    obtain ⟨chain, isChain, pair⟩ := Option.map_eq_some_iff.mp given
    obtain ⟨-, rfl⟩ := Prod.mk.inj pair
    have root := Scene.worded_chain? _ isChain
    rw [worded, same, message]
    rw [message] at own
    exact (Chain.message_of_lastOpen root (input.entryPoint_of_message valid exported) walked
      lastOpen).resolve_left own
  · refine Or.inr ⟨course, pending, others, last, walked, lastOpen, worded.trans same, ?_, ?_, ?_⟩
    · rw [worded, same]
      exact spelledOut_ne _ others last
    · rwa [← names]
    · rw [← names, ← facts]
      exact ends

end IndexInput

namespace Sample

/-- A package with entry points `New`, which makes a step, and `Query` of the step, which has a
message. One function drops what each of them makes. -/
def strayed : Package :=
  let made (start : Nat) : Node :=
    .call ⟨start, start + 5, some (.plain 2)⟩
      (.ident ⟨⟨start, start + 3, some (.plain 9)⟩, "New", some 3, none⟩) [] false
  let queried (start : Nat) : Node :=
    .call ⟨start, start + 13, some (.plain 4)⟩
      (.selector ⟨start, start + 11, some (.plain 8)⟩ (made start)
        ⟨⟨start + 6, start + 11, none⟩, "Query", some 2, none⟩
        (some { kind := .methodValue, receiver := .plain 2, method := some 2 })) [] false
  { imports := []
    scope := []
    files := [
      { fileOf [] with
        decls := [
          .funcDecl ⟨5, 9, none⟩ (some 0) [⟨1, "//endcheck:end"⟩] none none,
          .funcDecl ⟨15, 19, none⟩ (some 3) [⟨11, "//endcheck:start"⟩] none none,
          .funcDecl ⟨25, 29, none⟩ (some 2) [⟨21, "//endcheck:start run the query"⟩] none none,
          .funcDecl ⟨31, 60, none⟩ none [] none
            (some (.other ⟨35, 60, none⟩ .blockStmt
              [.discard ⟨38, 43, none⟩ .expression (made 38),
                .discard ⟨45, 58, none⟩ .expression (queried 45)]))] }] }

def strayedInput : IndexInput :=
  { layered with program := { layered.program with packages := [strayed] } }

/-- The step that is dropped first is a stage, and its message lists the method of the query. The other
message is that of `Query`. -/
theorem strayed_messages_founded :
    strayedInput.rules.errors = [] ∧ strayedInput.program.HandsOn strayedInput.handedOn ∧
      (Configuration.default.checkPackage strayedInput.build strayed).map Diagnostic.message =
        [.ofString "Method chain must end with Done()", .ofString "run the query"] ∧
      ∃ type name, strayedInput.terminalRules.Ends
        (Configuration.default.memoAfterCheck strayedInput.build strayed) type name := by
  have exported : strayedInput.program.HandsOn strayedInput.handedOn := fun _ member => nomatch member
  obtain ⟨account, founded⟩ := strayedInput.messages_well_founded rfl exported .default strayed
  have messages : (Configuration.default.checkPackage strayedInput.build strayed).map Diagnostic.message =
      [.ofString "Method chain must end with Done()", .ofString "run the query"] := by
    rw [← account]
    decide +kernel
  refine ⟨rfl, exported, messages, ?_⟩
  have ruledOut (func : FuncId) :
      (strayedInput.markers.of func).message ≠ .ofString "Method chain must end with Done()" := by
    rcases strayedInput.markers.of_cases func with declared | imported | ruled | none
    · exact (by decide +kernel : ∀ entry ∈ strayedInput.collected.markers,
        entry.2.message ≠ .ofString "Method chain must end with Done()") _ declared
    · cases imported
    · cases ruled
    · rw [none]
      decide +kernel
  obtain ⟨finding, member, aboutChain, message⟩ :
      ∃ finding ∈ Configuration.default.account strayedInput.build strayed,
        finding.origin.isSome = true ∧
          finding.diagnostic.message = .ofString "Method chain must end with Done()" := by
    decide +kernel
  rcases founded finding member with ⟨noChain, -⟩ | ⟨noChain, -⟩ |
    ⟨origin, -, ⟨-, func, -, entry⟩ | ⟨course, pending, others, last, -, -, -, -, -, ends⟩⟩
  · simp [noChain] at aboutChain
  · simp [noChain] at aboutChain
  · rw [message, Markers.entryPoint?] at entry
    split at entry
    · exact absurd (Option.some.inj entry) (ruledOut func)
    · cases entry
  · rcases ends last (List.mem_append_right _ (List.mem_singleton_self _)) with own | ⟨-, target, -, reached⟩
    · exact ⟨_, _, own⟩
    · exact ⟨_, _, reached⟩

end Sample

end Fluent
