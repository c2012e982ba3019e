import Fluent.Index.Build
import Fluent.Proofs.Index.Settling
import Mathlib.Logic.Relation

/-! Whether answers depend on what has been asked before.

The notes of a memo are right as long as each method that has been asked for settles. So an
index answers alike after all histories exactly if every terminal method settles from the
memo that the histories start with. This is so if no method redeclares itself by way of
others. -/

set_option autoImplicit false

namespace Fluent

def Index.after (index : Index) (questions : List Question) (memo : Memo) : Memo :=
  questions.foldl (fun memo question => (index.answer question memo).2) memo

namespace TerminalRules

variable {rules : TerminalRules} {memo current later : Memo} {func : FuncId}

/-- Does every terminal method settle? -/
def Settled (rules : TerminalRules) (memo : Memo) : Prop :=
  ∀ func, rules.Terminal memo func → rules.Settles memo [] func

theorem Faithful.refl (rules : TerminalRules) (memo : Memo) : rules.Faithful memo [] memo :=
  (Clean.refl rules memo).faithful

theorem Faithful.same (faithful : rules.Faithful memo [] current) (func : FuncId) :
    rules.Terminal current func ↔ rules.Terminal memo func :=
  Terminal.of_right_notes faithful.extended fun other given known =>
    faithful.others other given List.not_mem_nil known

theorem Faithful.trans (second : rules.Faithful current [] later)
    (first : rules.Faithful memo [] current) : rules.Faithful memo [] later := by
  refine ⟨second.extended.trans first.extended, fun _ member => (nomatch member), ?_⟩
  intro other given free known
  rw [second.others other given free known, first.same other]

/-- What settles from a memo settles from one with more right notes. -/
theorem Settles.mono {under : List FuncId} (settles : rules.Settles memo under func)
    (faithful : rules.Faithful memo [] current) : rules.Settles current under func := by
  -- Right notes change nothing about which methods count.
  have counts (under : List FuncId) (other : FuncId) :
      rules.Counts current under other ↔ rules.Counts memo under other :=
    and_congr_left fun _ => faithful.same other
  induction settles with
  | known yes => exact .known (faithful.extended _ true yes)
  | marked mark => exact .marked mark
  | redeclares redeclared skipped counting _ ih =>
    refine .redeclares redeclared (fun other member => ?_) ((counts _ _).mpr counting) ih
    rw [counts]
    exact skipped other member
  | implements none found =>
    refine .implements (fun other member => ?_) found
    rw [counts]
    exact none other member

def Redeclares (rules : TerminalRules) (func other : FuncId) : Prop := other ∈ rules.redeclared func

def denials (under : List FuncId) : Memo := under.map fun func => (func, false)

theorem lookup_denials {under : List FuncId} (free : func ∉ under) : (denials under).lookup func = none := by
  rw [List.lookup_eq_none_iff]
  simp only [denials, List.mem_map, forall_exists_index, and_imp]
  rintro entry other member rfl
  simpa using fun same : func = other => free (same ▸ member)

/-- Where no method redeclares itself by way of others, a terminal method settles. -/
theorem settles_of_acyclic (acyclic : ∀ func, ¬ Relation.TransGen rules.Redeclares func func)
    {under : List FuncId} (above : ∀ other ∈ under, Relation.TransGen rules.Redeclares other func)
    (terminal : rules.Terminal memo func) : rules.Settles memo under func := by
  -- Each method comes under examination once, so fewer and fewer are left.
  induction left : (rules.unknowns (denials under)).length using Nat.strongRecOn
    generalizing func under with
  | ind n ih =>
    cases known : memo.lookup func with
    | some given =>
      rw [(Terminal.of_known known).mp terminal] at known
      exact .known known
    | none =>
      have below {other : FuncId} (redeclared : other ∈ rules.redeclared func) :
          ∀ third ∈ func :: under, Relation.TransGen rules.Redeclares third other :=
        List.forall_mem_cons.mpr ⟨.single redeclared, fun third member => (above third member).tail redeclared⟩
      rcases counts_cases rules memo (func :: under) (rules.redeclared func) with
        none | ⟨before, other, after, redeclared, skipped, counts⟩
      · rcases (Terminal.of_unknown known).mp terminal with mark | ⟨other, redeclared, found⟩ | found
        · exact .marked mark
        · refine (none other redeclared ⟨found, fun member => ?_⟩).elim
          exact acyclic other (below redeclared other member)
        · exact .implements none found
      · have member : other ∈ rules.redeclared func := by rw [redeclared]; simp
        have free : func ∉ under := fun itself => acyclic func (above func itself)
        have fewer : (rules.unknowns (denials (func :: under))).length < n :=
          left ▸ length_unknowns_note (lookup_denials free) (lt_of_mem_redeclared member) false
        exact .redeclares redeclared skipped counts (ih _ fewer (below member) counts.1 rfl)

/-- A question about one method keeps a memo right, if all methods settle. -/
theorem Faithful.isTerminal (settled : rules.Settled memo) (faithful : rules.Faithful memo [] current)
    (func : FuncId) : rules.Faithful memo [] (rules.isTerminal func current).2 := by
  refine Faithful.trans ?_ faithful
  by_cases terminal : rules.Terminal current func
  · have settles := (settled func ((faithful.same func).mp terminal)).mono faithful
    rw [settles_iff (rules.length_unknowns current) (Clean.refl rules current) List.not_mem_nil
      terminal] at settles
    exact settles.2
  · obtain ⟨next, result, clean⟩ := examine_clean (rules.markers.decls.functions.length + 1)
      (fun counts => terminal counts.1) (Clean.refl rules current)
    rw [TerminalRules.isTerminal, result]
    exact clean.faithful

theorem filterAnswers_induction (holds : Memo → Prop)
    (kept : ∀ func memo, holds memo → holds (rules.isTerminal func memo).2) (funcs : List FuncId)
    (first : holds memo) : holds (filterAnswers rules.isTerminal funcs memo).2 := by
  induction funcs generalizing memo with
  | nil => exact first
  | cons func funcs ih => exact ih (kept func memo first)

end TerminalRules

namespace Index

variable (index : Index) {memo : Memo}

theorem after_append (first second : List Question) :
    index.after (first ++ second) memo = index.after second (index.after first memo) :=
  List.foldl_append

/-- What questions about single methods keep is kept by all questions. -/
theorem after_induction (holds : Memo → Prop)
    (kept : ∀ func memo, holds memo → holds (index.rules.isTerminal func memo).2)
    (questions : List Question) (first : holds memo) : holds (index.after questions memo) := by
  induction questions generalizing memo with
  | nil => exact first
  | cons question questions ih =>
    apply ih
    cases question with
    | terminal func => exact kept func memo first
    | facts id =>
      simp only [answer, facts_eq]
      exact TerminalRules.filterAnswers_induction holds kept _ first

theorem faithful_after (settled : index.rules.Settled memo) (questions : List Question) :
    index.rules.Faithful memo [] (index.after questions memo) :=
  index.after_induction _ (fun func _ faithful => faithful.isTerminal settled func) questions
    (TerminalRules.Faithful.refl index.rules memo)

theorem isTerminal_after_iff (settled : index.rules.Settled memo) (questions : List Question)
    (func : FuncId) :
    (index.rules.isTerminal func (index.after questions memo)).1 = true ↔
      index.rules.Terminal memo func := by
  rw [TerminalRules.isTerminal_iff, (index.faithful_after settled questions).same func]

theorem history_independent_iff (memo : Memo) :
    (∀ first second func,
      (index.rules.isTerminal func (index.after first memo)).1 =
        (index.rules.isTerminal func (index.after second memo)).1) ↔
      index.rules.Settled memo := by
  constructor
  · intro independent func terminal
    rw [TerminalRules.settles_iff (index.rules.length_unknowns memo)
      (TerminalRules.Clean.refl index.rules memo) List.not_mem_nil terminal]
    refine ⟨TerminalRules.isTerminal_iff func memo |>.mpr terminal,
      index.rules.isTerminal_extends func memo, fun _ member => (nomatch member), ?_⟩
    intro other given _ noted
    -- A note that the question about `func` leaves must be the answer without that question.
    have same := independent [.terminal func] [] other
    have known : index.rules.isTerminal other (index.after [.terminal func] memo) = (given, _) :=
      index.rules.isTerminal_known noted
    rw [known] at same
    simp only at same
    rw [same]
    exact TerminalRules.isTerminal_iff other memo
  · intro settled first second func
    rw [Bool.eq_iff_iff, index.isTerminal_after_iff settled, index.isTerminal_after_iff settled]

end Index

namespace IndexInput

variable (input : IndexInput)

theorem terminalTable_memo (index : Index) (ids : List NamedId) (memo : Memo) :
    (index.rules.terminalTable ids memo).2 = index.after (ids.map .facts) memo := by
  induction ids generalizing memo with
  | nil => rfl
  | cons id ids ih =>
    simp only [TerminalRules.terminalTable, List.map_cons, Index.after, List.foldl_cons, ih,
      Index.answer, Index.facts_eq]

def resultFacts (index : Index) (func : FuncId) (memo : Memo) : Option TypeFacts × Memo :=
  match input.program.decls.resultOf? (.plain func) with
  | some type => index.factsOf type memo
  | none => (none, memo)

theorem checkEntries_cons (index : Index) (func : FuncId) (place : Place)
    (entries : List (FuncId × Place)) (memo : Memo) :
    input.checkEntries index ((func, place) :: entries) memo =
      let facts := input.resultFacts index func memo
      let rest := input.checkEntries index entries facts.2
      (if facts.1.isSome then rest.1
        else
          { place
            message := (Problem.unreachableTerminal (input.program.decls.functionNamed func)).message } ::
              rest.1,
        rest.2) := by
  rw [checkEntries]
  change (if (input.resultFacts index func memo).1.isSome = true then _ else _) = _
  by_cases known : (input.resultFacts index func memo).1.isSome = true
  · rw [if_pos known]
    simp only [known, if_true]
    rfl
  · rw [if_neg known]
    simp only [known, if_false, Bool.false_eq_true]
    rfl

theorem resultFacts_memo (index : Index) (func : FuncId) (memo : Memo) :
    ∃ asked, (input.resultFacts index func memo).2 = index.after asked memo := by
  unfold resultFacts Index.factsOf
  cases input.program.decls.resultOf? (.plain func) with
  | none => exact ⟨[], rfl⟩
  | some type =>
    cases base : index.decls.base? type with
    | none => exact ⟨[], by simp only [base]; rfl⟩
    | some id => exact ⟨[.facts id], by simp only [base]; rfl⟩

theorem checkEntries_memo (index : Index) (entries : List (FuncId × Place)) (memo : Memo) :
    ∃ asked, (input.checkEntries index entries memo).2 = index.after asked memo := by
  induction entries generalizing memo with
  | nil => exact ⟨[], rfl⟩
  | cons entry entries ih =>
    obtain ⟨asked, first⟩ := input.resultFacts_memo index entry.1 memo
    obtain ⟨rest, later⟩ := ih (index.after asked memo)
    refine ⟨asked ++ rest, ?_⟩
    rw [Index.after_append, ← later, ← first, checkEntries_cons]

theorem stages_memo (index : Index) (order : VisitOrder) (results : List Ty) (memo : Memo) :
    ∃ asked, (index.rules.stages order results memo).2 = index.after asked memo :=
  ⟨_, terminalTable_memo index _ memo⟩

/-- The stages of a package, with the memo that the search for them leaves. -/
def found : StageTable × Memo :=
  input.terminalRules.stages input.order (input.entryPoints.filterMap input.program.decls.resultOf?) []

/-- The entry points are checked after the stages have been found. -/
theorem build_def : input.build =
    { index := { rules := input.terminalRules, stages := input.found.1 }
      memo := (input.checkEntries input.build.index input.entryPlaces input.found.2).2
      exported := input.collected.markers
      declarations := input.collected.problems ++
        (input.checkEntries input.build.index input.entryPlaces input.found.2).1 } := rfl

/-- The memo from which the entry points are checked. -/
theorem build_eq : ∃ asked,
    input.build.memo = (input.checkEntries input.build.index input.entryPlaces
      (input.build.index.after asked [])).2 ∧
    input.build.declarations = input.collected.problems ++
      (input.checkEntries input.build.index input.entryPlaces (input.build.index.after asked [])).1 := by
  obtain ⟨asked, same⟩ := stages_memo input.build.index input.order
    (input.entryPoints.filterMap input.program.decls.resultOf?) []
  exact ⟨asked, same ▸ rfl, same ▸ rfl⟩

theorem build_memo : ∃ asked, input.build.memo = input.build.index.after asked [] := by
  obtain ⟨before, start, -⟩ := input.build_eq
  obtain ⟨asked, same⟩ := input.checkEntries_memo input.build.index input.entryPlaces
    (input.build.index.after before [])
  exact ⟨before ++ asked, by rw [start, same, Index.after_append]⟩

/-- An index that has been built answers alike after any two histories exactly if every terminal
method settles from the memo that they start with. The memo of the built index itself comes from
asking, so it makes no difference in which order types are visited if all methods settle from the
empty memo. They do if no method redeclares itself by way of others. -/
theorem answers_alike_iff :
    (∀ memo, (∀ first second func,
      (input.build.index.rules.isTerminal func (input.build.index.after first memo)).1 =
        (input.build.index.rules.isTerminal func (input.build.index.after second memo)).1) ↔
      input.build.index.rules.Settled memo) ∧
    (∃ asked, input.build.memo = input.build.index.after asked []) ∧
    ((∀ func, ¬ Relation.TransGen input.build.index.rules.Redeclares func func) →
      ∀ memo, input.build.index.rules.Settled memo) := by
  refine ⟨input.build.index.history_independent_iff, input.build_memo, ?_⟩
  intro acyclic memo func terminal
  exact TerminalRules.settles_of_acyclic acyclic (fun _ member => nomatch member) terminal

end IndexInput

namespace Sample

/-- Two structs that embed each other, the first also one with a terminal method, all with a
method `M`. -/
def ring : IndexInput :=
  { program :=
      { decls :=
          { packagePaths := ["app", "lib"]
            types := #[
              .declared { name := "A", package := some 1, underlying := 3, methods := [1], typeParams := [] },
              .declared { name := "B", package := some 1, underlying := 4, methods := [2], typeParams := [] },
              .declared { name := "T", package := some 1, underlying := 5, methods := [0], typeParams := [] },
              .literal (.struct (some 1) [⟨"B", true, "", 6⟩, ⟨"T", true, "", 2⟩]),
              .literal (.struct (some 1) [⟨"A", true, "", 7⟩]),
              .literal (.struct none []),
              .literal (.pointer 1),
              .literal (.pointer 0),
              .literal (.func { params := [], results := [], variadic := false })]
            functions := [
              { name := "M", package := some 1, type := 8, receiver := some 2, typeParams := [],
                receiverParams := [] },
              { name := "M", package := some 1, type := 8, receiver := some 7, typeParams := [],
                receiverParams := [] },
              { name := "M", package := some 1, type := 8, receiver := some 6, typeParams := [],
                receiverParams := [] }] }
        packages := [{ imports := [1], scope := [], files := [] }, { imports := [], scope := [], files := [] }] }
    package := 0
    rules := .none
    handedOn := [(0, { kind := .terminal, message := [] })]
    order := .asFound }

/-- Whether `B.M` is terminal depends on whether `A.M` has been asked for before. -/
theorem ring_depends_on_history :
    (ring.build.index.rules.isTerminal 2 (ring.build.index.after [.terminal 1] ring.build.memo)).1 ≠
      (ring.build.index.rules.isTerminal 2 (ring.build.index.after [] ring.build.memo)).1 := by
  decide +kernel

end Sample

end Fluent
