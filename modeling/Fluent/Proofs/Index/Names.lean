import Fluent.Proofs.Index.Provenance
import Fluent.Proofs.Index.Stages
import Mathlib.Data.String.Basic

/-! The names of the methods that complete a builder.

They are listed in strict order, without repetition, and there is at least one. A type with
terminal methods lists its own, and a stage those of the types that it leads to. A method was
terminal when its name was noted, and it stays so. -/

set_option autoImplicit false

namespace Fluent

theorem insertSorted_pairwise {α : Type} (key : α → String) (element : α) {elements : List α}
    (sorted : elements.Pairwise fun first second => key first ≤ key second) :
    (insertSorted key element elements).Pairwise fun first second => key first ≤ key second := by
  induction elements with
  | nil => exact List.pairwise_singleton _ _
  | cons head tail ih =>
    obtain ⟨least, sortedTail⟩ := List.pairwise_cons.mp sorted
    unfold insertSorted
    split
    next before =>
      refine List.pairwise_cons.mpr ⟨List.forall_mem_cons.mpr ⟨before.le, ?_⟩, sorted⟩
      exact fun other member => before.le.trans (least other member)
    next behind =>
      refine List.pairwise_cons.mpr ⟨fun other member => ?_, ih sortedTail⟩
      rcases List.mem_cons.mp ((insertSorted_perm key element tail).mem_iff.mp member) with rfl | member
      · exact not_lt.mp behind
      · exact least other member

theorem sortByKey_pairwise {α : Type} (key : α → String) (elements : List α) :
    (sortByKey key elements).Pairwise fun first second => key first ≤ key second :=
  List.foldlRecOn (motive := fun sorted : List α => sorted.Pairwise fun first second => key first ≤ key second)
    _ _ List.Pairwise.nil fun _ sorted element _ => insertSorted_pairwise key element sorted

theorem mem_dropRepeats {names : List String} {name : String} : name ∈ dropRepeats names ↔ name ∈ names := by
  induction names with
  | nil => rfl
  | cons first names ih =>
    rw [List.mem_cons, ← ih, dropRepeats]
    cases dropRepeats names with
    | nil => simp
    | cons next rest =>
      simp only
      split
      next repeated => simp [repeated]
      next => exact List.mem_cons

/-- Without repeats, what is sorted is strictly so. -/
theorem dropRepeats_pairwise {names : List String} (sorted : names.Pairwise (· ≤ ·)) :
    (dropRepeats names).Pairwise (· < ·) := by
  induction names with
  | nil => exact List.Pairwise.nil
  | cons first names ih =>
    obtain ⟨least, sortedRest⟩ := List.pairwise_cons.mp sorted
    have strict := ih sortedRest
    unfold dropRepeats
    split
    next => exact List.pairwise_singleton _ _
    next next rest same =>
      rw [same] at strict
      split
      next => exact strict
      next differs =>
        have below : first < next :=
          lt_of_le_of_ne (least next (mem_dropRepeats.mp (by rw [same]; exact List.mem_cons_self))) differs
        refine List.pairwise_cons.mpr ⟨List.forall_mem_cons.mpr ⟨below, fun other member => ?_⟩, strict⟩
        exact below.trans (List.rel_of_pairwise_cons strict member)

theorem mem_addNames {names more : List String} {name : String} :
    name ∈ addNames names more ↔ name ∈ names ∨ name ∈ more := by
  induction more generalizing names with
  | nil => simp [addNames]
  | cons first more ih =>
    rw [addNames, List.foldl_cons, ← addNames, ih, List.mem_cons]
    split
    next known =>
      constructor
      · exact Or.imp_right Or.inr
      · rintro (member | rfl | member)
        · exact Or.inl member
        · exact Or.inl known
        · exact Or.inr member
    next => simp [or_assoc]

theorem addNames_nodup {names : List String} (nodup : names.Nodup) (more : List String) :
    (addNames names more).Nodup := by
  refine List.foldlRecOn (motive := fun names : List String => names.Nodup) _ _ nodup
    fun names nodup name _ => ?_
  split
  next => exact nodup
  next unknown =>
    exact List.nodup_append.mpr ⟨nodup, List.nodup_singleton _, by
      intro other member same isSame
      rw [List.mem_singleton.mp isSame]
      exact fun equal => unknown (equal ▸ member)⟩

theorem foldl_addNames_nodup {α : Type} (namesOf : α → List String) (items : List α) :
    (items.foldl (fun names item => addNames names (namesOf item)) []).Nodup :=
  List.foldlRecOn (motive := fun names : List String => names.Nodup) _ _ List.nodup_nil
    fun _ nodup item _ => addNames_nodup nodup (namesOf item)

theorem mem_foldl_addNames {α : Type} {namesOf : α → List String} {items : List α} {names : List String}
    {name : String} : name ∈ items.foldl (fun names item => addNames names (namesOf item)) names ↔
      name ∈ names ∨ ∃ item ∈ items, name ∈ namesOf item := by
  induction items generalizing names with
  | nil => simp
  | cons item items ih => rw [List.foldl_cons, ih, mem_addNames, List.exists_mem_cons_iff, or_assoc]

namespace TerminalRules

variable {rules : TerminalRules} {memo later : Memo}

/-- Is a name that of a terminal method of a declared type? -/
def Ends (rules : TerminalRules) (memo : Memo) (id : NamedId) (name : String) : Prop :=
  ∃ method ∈ rules.markers.decls.methodSet id,
    rules.markers.decls.functionNamed method.func = name ∧ (rules.isTerminal method.func memo).1 = true

theorem isTerminal_of_mem_filterAnswers {funcs : List FuncId} {func : FuncId}
    (extended : later.Extends (filterAnswers rules.isTerminal funcs memo).2)
    (member : func ∈ (filterAnswers rules.isTerminal funcs memo).1) :
    func ∈ funcs ∧ (rules.isTerminal func later).1 = true := by
  induction funcs generalizing memo with
  | nil => cases member
  | cons first funcs ih =>
    have rest (member : func ∈ (filterAnswers rules.isTerminal funcs (rules.isTerminal first memo).2).1) :
        func ∈ first :: funcs ∧ (rules.isTerminal func later).1 = true := by
      obtain ⟨listed, terminal⟩ := ih extended member
      exact ⟨List.mem_cons_of_mem _ listed, terminal⟩
    simp only [filterAnswers] at member
    split at member
    next kept =>
      rcases List.mem_cons.mp member with rfl | member
      · refine ⟨List.mem_cons_self, ?_⟩
        rw [rules.isTerminal_later (extended.trans (rules.filterAnswers_extends funcs _))]
        exact kept
      · exact rest member
    next => exact rest member

theorem ends_of_mem_terminalNames {id : NamedId} {name : String}
    (extended : later.Extends (rules.terminalNames id memo).2)
    (member : name ∈ (rules.terminalNames id memo).1) : rules.Ends later id name := by
  have unsorted := (sortByKey_perm (fun name => name) _).mem_iff.mp member
  obtain ⟨func, kept, named⟩ := List.mem_map.mp unsorted
  obtain ⟨listed, terminal⟩ := isTerminal_of_mem_filterAnswers extended kept
  obtain ⟨method, inSet, rfl⟩ := List.mem_map.mp listed
  exact ⟨method, inSet, named, terminal⟩

theorem terminalTable_extends (rules : TerminalRules) (ids : List NamedId) (memo : Memo) :
    Memo.Extends (rules.terminalTable ids memo).2 memo := by
  induction ids generalizing memo with
  | nil => exact Memo.Extends.refl memo
  | cons id ids ih =>
    exact (ih (rules.terminalNames id memo).2).trans (rules.terminalNames_extends id memo)

/-- The names that a table has for a type are what the type would be given later. -/
theorem terminalNames_of_mem_terminalTable {ids : List NamedId} {entry : NamedId × List String}
    (extended : later.Extends (rules.terminalTable ids memo).2)
    (member : entry ∈ (rules.terminalTable ids memo).1) :
    rules.terminalNames entry.1 later = (entry.2, later) := by
  induction ids generalizing memo with
  | nil => cases member
  | cons id ids ih =>
    rcases List.mem_cons.mp member with rfl | member
    · have table := rules.terminalTable_extends ids (rules.terminalNames id memo).2
      exact rules.terminalNames_later id (extended.trans table)
    · exact ih extended member

/-- The names gathered for a type without names of its own come from types that it leads to. -/
theorem names_of_reachableNames {ids : List NamedId} {id : NamedId}
    (extended : later.Extends (rules.terminalTable ids memo).2)
    (stage : (rules.terminalNames id later).1 = []) :
    (rules.reachableNames (rules.terminalTable ids memo).1 id).Nodup ∧
      ∀ name ∈ rules.reachableNames (rules.terminalTable ids memo).1 id, ∃ target,
        Relation.ReflTransGen rules.markers.decls.LeadsTo id target ∧ rules.Ends later target name := by
  -- The type has no names of its own, also not in the table.
  have own : ((rules.terminalTable ids memo).1.lookup id).getD [] = [] := by
    cases entry : (rules.terminalTable ids memo).1.lookup id with
    | none => rfl
    | some names =>
      rw [terminalNames_of_mem_terminalTable extended (mem_of_lookup entry)] at stage
      exact stage
  have names : rules.reachableNames (rules.terminalTable ids memo).1 id =
      (Graph.reachable rules.markers.decls.successors rules.markers.decls.types.size [id]).foldl
        (fun names other => addNames names (((rules.terminalTable ids memo).1.lookup other).getD [])) [] := by
    rw [reachableNames, own]
  rw [names]
  refine ⟨foldl_addNames_nodup _ _, fun name member => ?_⟩
  rw [mem_foldl_addNames] at member
  obtain ⟨target, reached, noted⟩ := member.resolve_left List.not_mem_nil
  refine ⟨target, rules.markers.decls.mem_reachable_from.mp reached, ?_⟩
  cases entry : (rules.terminalTable ids memo).1.lookup target with
  | none =>
    rw [entry] at noted
    cases noted
  | some names =>
    rw [entry] at noted
    have same := terminalNames_of_mem_terminalTable extended (mem_of_lookup entry)
    have extended : later.Extends (rules.terminalNames target later).2 := by
      rw [same]
      exact Memo.Extends.refl later
    exact ends_of_mem_terminalNames extended (by rw [same]; exact noted)

/-- The names of a stage are listed in strict order, and come from types that it leads to. -/
theorem names_of_stage {order : VisitOrder} {results : List Ty} {id : NamedId} {names : List String}
    (found : (rules.stages order results memo).1.lookup id = some names)
    (extended : later.Extends (rules.stages order results memo).2)
    (stage : (rules.terminalNames id later).1 = []) :
    names ≠ [] ∧ names.Pairwise (· < ·) ∧ ∀ name ∈ names, ∃ target,
      Relation.ReflTransGen rules.markers.decls.LeadsTo id target ∧ rules.Ends later target name := by
  rw [stages_eq] at found
  obtain ⟨other, -, listed⟩ := List.mem_filterMap.mp (mem_of_lookup found)
  split at listed
  next => cases listed
  next present =>
    obtain ⟨rfl, rfl⟩ := Prod.mk.inj (Option.some.inj listed)
    obtain ⟨nodup, ends⟩ := names_of_reachableNames extended stage
    refine ⟨fun empty => present ((sortByKey_eq_nil _ _).mp empty), ?_, fun name member => ?_⟩
    · have distinct := (sortByKey_perm (fun name : String => name) _).nodup_iff.mpr nodup
      exact ((sortByKey_pairwise _ _).and distinct).imp fun pair => lt_of_le_of_ne pair.1 pair.2
    · exact ends name ((sortByKey_perm _ _).mem_iff.mp member)

end TerminalRules

theorem Index.after_extends (index : Index) (questions : List Question) (memo : Memo) :
    Memo.Extends (index.after questions memo) memo :=
  index.after_induction (fun later => later.Extends memo)
    (fun func _ extended => (index.rules.isTerminal_extends func _).trans extended) questions
    (Memo.Extends.refl memo)

namespace IndexInput

variable {input : IndexInput} {later : Memo}

theorem build_extends_found (input : IndexInput) : Memo.Extends input.build.memo input.found.2 := by
  obtain ⟨asked, same⟩ := input.checkEntries_memo input.build.index input.entryPlaces input.found.2
  rw [build_def]
  simp only [same]
  exact input.build.index.after_extends asked _

/-- The facts of a type, once they have been asked for, name at least one method, and in strict order.
Each of the methods is terminal. It belongs to the type itself or, for a stage, to a type that it leads to. -/
theorem names_of_facts (kept : later.Extends input.build.memo) {id : NamedId} {facts : TypeFacts}
    {memo : Memo} (asked : later.Extends (input.build.index.facts id memo).2)
    (known : (input.build.index.facts id later).1 = some facts) :
    facts.names ≠ [] ∧ facts.names.Pairwise (· < ·) ∧ ∀ name ∈ facts.names,
      input.terminalRules.Ends later id name ∨ facts.isStage = true ∧ ∃ target,
        Relation.ReflTransGen input.program.decls.LeadsTo id target ∧
          input.terminalRules.Ends later target name := by
  have rules : input.build.index.rules = input.terminalRules := rfl
  rw [Index.facts_eq, rules] at asked known
  have same := input.terminalRules.terminalNames_later id asked
  cases names : (input.terminalRules.terminalNames id later).1 with
  | nil =>
    simp only [names] at known
    obtain ⟨reachable, found, rfl⟩ := Option.map_eq_some_iff.mp known
    obtain ⟨present, increasing, ends⟩ :=
      TerminalRules.names_of_stage found (kept.trans input.build_extends_found) names
    exact ⟨present, increasing, fun name member => Or.inr ⟨rfl, ends name member⟩⟩
  | cons first rest =>
    simp only [names] at known
    cases known
    have sorted : (first :: rest).Pairwise (· ≤ ·) := by
      rw [← names]
      exact sortByKey_pairwise _ _
    change dropRepeats (first :: rest) ≠ [] ∧ (dropRepeats (first :: rest)).Pairwise (· < ·) ∧
      ∀ name ∈ dropRepeats (first :: rest), _
    refine ⟨?_, dropRepeats_pairwise sorted, fun name member => Or.inl ?_⟩
    · exact List.ne_nil_of_mem (mem_dropRepeats.mpr List.mem_cons_self)
    · rw [mem_dropRepeats, ← names] at member
      have extended : later.Extends (input.terminalRules.terminalNames id later).2 := by
        rw [same]
        exact Memo.Extends.refl later
      exact TerminalRules.ends_of_mem_terminalNames extended member

end IndexInput

end Fluent
