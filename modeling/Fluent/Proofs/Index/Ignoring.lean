import Fluent.Proofs.Index.History
import Fluent.Proofs.Index.Provenance
import Fluent.Proofs.QualifiedName

/-! What one more rule for ignored functions changes in an index.

The rule stands behind all others, so it marks the functions of its name that have no marker
yet. None of them was terminal or an entry point before, and none is so afterwards. The index
gives the same answers, and the only new thing about it is which functions it ignores. -/

set_option autoImplicit false

namespace Fluent

namespace RuleSet

variable {rules : RuleSet} {func : String} {name : QualifiedName}

/-- The rules with one more, without a message, for ignored functions. -/
def ignoring (rules : RuleSet) (func : String) : RuleSet :=
  { rules with ignored := rules.ignored ++ [{ func, message := "" }] }

/-- Does a rule name the functions with a qualified name? -/
def Names (rules : RuleSet) (name : QualifiedName) : Prop :=
  ∃ rule ∈ rules.terminals ++ (rules.entryPoints ++ rules.ignored), QualifiedName.parse rule.func = .ok name

theorem lookup_markers_eq_none (unnamed : ¬ rules.Names name) : rules.markers.lookup name = .none := by
  rw [List.lookup_eq_none_iff]
  intro entry member
  obtain ⟨⟨kind, rule⟩, listed, read, -⟩ := rule_of_mem_markers member
  have present : rule ∈ rules.terminals ++ (rules.entryPoints ++ rules.ignored) := by
    simp only [byKind, List.mem_append, List.mem_map, Prod.mk.injEq] at listed ⊢
    rcases listed with ⟨_, listed, -, rfl⟩ | ⟨_, listed, -, rfl⟩ | ⟨_, listed, -, rfl⟩
    · exact Or.inl listed
    · exact Or.inr (Or.inl listed)
    · exact Or.inr (Or.inr listed)
  have ne : name ≠ entry.1 := fun same => unnamed ⟨rule, present, same ▸ read⟩
  simpa using ne

theorem markers_ignoring (read : QualifiedName.parse func = .ok name) (unnamed : ¬ rules.Names name) :
    (rules.ignoring func).markers = rules.markers ++ [(name, { kind := .ignore, message := [] })] := by
  have absent : (rules.markers.lookup name).isSome = false := by simp [lookup_markers_eq_none unnamed]
  have last : (rules.ignoring func).markers = addRules .ignore rules.markers [{ func, message := "" }] :=
    List.foldl_append
  rw [last]
  simp only [addRules, List.foldl_cons, List.foldl_nil, read, absent, Bool.false_eq_true, if_false]
  rfl

end RuleSet

namespace Markers

variable {markers : Markers} {name : QualifiedName}

/-- The markers with a last rule by which the functions of a name are ignored. -/
def ignoring (markers : Markers) (name : QualifiedName) : Markers :=
  { markers with ruled := markers.ruled ++ [(name, { kind := .ignore, message := [] })] }

/-- Has a function a name, but no marker? -/
def leavesOpen (markers : Markers) (name : QualifiedName) (func : FuncId) : Bool :=
  (markers.of func).kind = .none && markers.decls.qualifiedName func = name

/-- Is a name of some package free for a further rule? Directives always give a marker of a kind. -/
structure Free (markers : Markers) (name : QualifiedName) : Prop where
  unruled : markers.ruled.lookup name = none
  pathed : name.path ≠ ""
  declared : ∀ entry ∈ markers.declared, entry.2.kind ≠ .none
  imported : ∀ entry ∈ markers.imported, entry.2.kind ≠ .none

/-- The last rule counts for the functions of its name that have no marker without it. -/
theorem of_ignoring (free : markers.Free name) (func : FuncId) :
    (markers.ignoring name).of func =
      if markers.leavesOpen name func then { kind := .ignore, message := [] } else markers.of func := by
  by_cases named : markers.decls.qualifiedName func = name
  · cases declared : markers.declared.lookup func with
    | some marker =>
      have marked := free.declared _ (mem_of_lookup declared)
      simp [leavesOpen, of, ignoring, declared, marked]
    | none =>
      cases owner : markers.decls.functionPackage func with
      | none => exact (free.pathed (named ▸ qualifiedName_of_no_package owner)).elim
      | some package =>
        by_cases own : package = markers.package
        · simp [leavesOpen, of, ignoring, declared, owner, own, named, free.unruled, Marker.unmarked,
            List.lookup_append]
        · cases imported : markers.imported.lookup func with
          | some marker =>
            have marked := free.imported _ (mem_of_lookup imported)
            simp [leavesOpen, of, ignoring, declared, owner, own, imported, marked]
          | none =>
            simp [leavesOpen, of, ignoring, declared, owner, own, imported, named, free.unruled,
              Marker.unmarked, List.lookup_append]
  · have same : (markers.ignoring name).ruled.lookup (markers.decls.qualifiedName func) =
        markers.ruled.lookup (markers.decls.qualifiedName func) := by
      simp [ignoring, List.lookup_append, List.lookup_cons, beq_false_of_ne named]
    have closed : markers.leavesOpen name func = false := by simp [leavesOpen, named]
    rw [closed, if_neg Bool.false_ne_true, of, of]
    simp only [← same]
    rfl

/-- A function that is left open has no message either. -/
theorem of_leavesOpen (free : markers.Free name) {func : FuncId} (opened : markers.leavesOpen name func = true) :
    markers.of func = .unmarked := by
  simp only [leavesOpen, Bool.and_eq_true, decide_eq_true_eq] at opened
  obtain ⟨kind, named⟩ := opened
  rcases markers.of_cases func with declared | imported | ruled | none
  · exact (free.declared _ declared kind).elim
  · exact (free.imported _ imported kind).elim
  · have absent := List.lookup_eq_none_iff.mp free.unruled _ ruled
    simp [named] at absent
  · exact none

variable (free : markers.Free name) (func : FuncId)
include free

theorem kind_ignoring : ((markers.ignoring name).of func).kind = .terminal ↔
    (markers.of func).kind = .terminal := by
  rw [of_ignoring free]
  split
  next opened => simp [of_leavesOpen free opened, Marker.unmarked]
  next => rfl

theorem message_ignoring : ((markers.ignoring name).of func).message = (markers.of func).message := by
  rw [of_ignoring free]
  split
  next opened => simp [of_leavesOpen free opened, Marker.unmarked]
  next => rfl

theorem entryPoint?_ignoring : (markers.ignoring name).entryPoint? func = markers.entryPoint? func := by
  rw [entryPoint?, entryPoint?, of_ignoring free]
  split
  next opened => simp [of_leavesOpen free opened, Marker.unmarked]
  next => rfl

theorem ignores_ignoring : (markers.ignoring name).ignores func =
    (markers.ignores func || markers.leavesOpen name func) := by
  rw [ignores, ignores, of_ignoring free]
  cases markers.leavesOpen name func <;> simp

end Markers

namespace TerminalRules

variable {rules : TerminalRules} {name : QualifiedName}

def ignoring (rules : TerminalRules) (name : QualifiedName) : TerminalRules :=
  { rules with markers := rules.markers.ignoring name }

variable (free : rules.markers.Free name)
include free

theorem examine_ignoring (fuel : Nat) : (rules.ignoring name).examine fuel = rules.examine fuel := by
  have marked (func : FuncId) : ((rules.ignoring name).markers.of func).kind = .terminal ↔
      (rules.markers.of func).kind = .terminal := Markers.kind_ignoring free func
  induction fuel with
  | zero => rfl
  | succ fuel ih =>
    funext func memo
    simp only [examine, ih, marked]
    rfl

theorem isTerminal_ignoring : (rules.ignoring name).isTerminal = rules.isTerminal :=
  funext fun func => congrFun (examine_ignoring free _) func

theorem terminalNames_ignoring : (rules.ignoring name).terminalNames = rules.terminalNames := by
  funext id memo
  simp only [terminalNames, isTerminal_ignoring free]
  rfl

theorem terminalTable_ignoring (ids : List NamedId) :
    (rules.ignoring name).terminalTable ids = rules.terminalTable ids := by
  induction ids with
  | nil => rfl
  | cons id ids ih =>
    funext memo
    simp only [terminalTable, terminalNames_ignoring free, ih]

theorem stages_ignoring (order : VisitOrder) (results : List Ty) :
    (rules.ignoring name).stages order results = rules.stages order results := by
  funext memo
  simp only [stages, terminalTable_ignoring free]
  rfl

end TerminalRules

namespace Index

variable {index : Index} {name : QualifiedName}

def ignoring (index : Index) (name : QualifiedName) : Index :=
  { index with rules := index.rules.ignoring name }

variable (free : index.markers.Free name)
include free

theorem facts_ignoring : (index.ignoring name).facts = index.facts := by
  funext id memo
  rw [facts_eq, facts_eq, ignoring, TerminalRules.terminalNames_ignoring free]

theorem answer_ignoring : (index.ignoring name).answer = index.answer := by
  funext question
  cases question with
  | facts id => exact congrFun (facts_ignoring free) id
  | terminal func => exact congrFun (TerminalRules.isTerminal_ignoring free) func

theorem run_ignoring {α : Type} (inquiry : Inquiry α) : (index.ignoring name).run inquiry = index.run inquiry := by
  funext memo
  rw [run, run, answer_ignoring free]

theorem view_ignoring : (index.ignoring name).view = index.view := by
  funext memo question
  rw [view, view, answer_ignoring free]

end Index

namespace IndexInput

variable {input : IndexInput} {func : String} {name : QualifiedName}

def ignoring (input : IndexInput) (func : String) : IndexInput :=
  { input with rules := input.rules.ignoring func }

theorem free_of_unnamed (read : QualifiedName.parse func = .ok name) (unnamed : ¬ input.rules.Names name)
    (exported : input.program.HandsOn input.handedOn) : input.markers.Free name where
  unruled := RuleSet.lookup_markers_eq_none unnamed
  pathed := QualifiedName.path_ne_of_parse read
  declared := fun _ member => (proper_of_declared member).marked
  imported := fun _ member => (exported.proper member).marked

theorem markers_ignoring (read : QualifiedName.parse func = .ok name) (unnamed : ¬ input.rules.Names name) :
    (input.ignoring func).markers = input.markers.ignoring name := by
  simp only [markers, ignoring, RuleSet.markers_ignoring read unnamed]
  rfl

theorem checkEntries_ignoring (free : input.markers.Free name) {index : Index}
    (same : index.markers = input.markers) (entries : List (FuncId × Place)) (memo : Memo) :
    (input.ignoring func).checkEntries (index.ignoring name) entries memo =
      input.checkEntries index entries memo := by
  rw [← same] at free
  have facts (func' : FuncId) (memo : Memo) :
      (input.ignoring func).resultFacts (index.ignoring name) func' memo =
        input.resultFacts index func' memo := by
    simp only [resultFacts, Index.factsOf, Index.facts_ignoring free]
    rfl
  induction entries generalizing memo with
  | nil => rfl
  | cons entry entries ih =>
    rw [checkEntries_cons, checkEntries_cons]
    simp only [facts, ih]
    rfl

/-- With one more rule for ignored functions, an index is built in the same way. -/
theorem build_ignoring (read : QualifiedName.parse func = .ok name) (unnamed : ¬ input.rules.Names name)
    (exported : input.program.HandsOn input.handedOn) :
    (input.ignoring func).build = { input.build with index := input.build.index.ignoring name } := by
  have free := free_of_unnamed read unnamed exported
  have rules : (input.ignoring func).terminalRules = input.terminalRules.ignoring name := by
    simp only [terminalRules, markers_ignoring read unnamed]
    rfl
  have found : (input.ignoring func).found = input.found := by
    rw [IndexInput.found, rules, TerminalRules.stages_ignoring free]
    rfl
  have index : (input.ignoring func).build.index = input.build.index.ignoring name := by
    rw [build_def, found, rules]
    rfl
  have checked := @checkEntries_ignoring input func name free input.build.index rfl
    input.entryPlaces input.found.2
  rw [build_def (input.ignoring func), index, found, rules]
  change Built.mk _ ((input.ignoring func).checkEntries _ input.entryPlaces _).2 _
    (_ ++ ((input.ignoring func).checkEntries _ input.entryPlaces _).1) = _
  rw [checked]
  rfl

end IndexInput

end Fluent
