import Fluent.Proofs.Graph
import Fluent.Proofs.Index.History
import Fluent.Proofs.Types.Embedding

/-! Stages lie on the ways from the results of entry points to types with a terminal method.

This holds where all methods settle: the names that are kept for a type are then those of its
terminal methods, whatever has been asked before. -/

set_option autoImplicit false

namespace Fluent

/-- Does a method of a declared type have a result that is, or points to, a declared type of the
same package? -/
def Declarations.LeadsTo (decls : Declarations) (id next : NamedId) : Prop :=
  ∃ method ∈ decls.methodSet id, ∃ result ∈ decls.resultsOf method,
    decls.base? result = some next ∧ decls.packageOf next = decls.packageOf id

theorem Declarations.leads_successors (decls : Declarations) :
    Graph.Leads decls.successors = decls.LeadsTo := by
  funext id next
  simp [Graph.Leads, successors, LeadsTo, ← and_assoc, exists_and_right]

/-- Only entries of the table lead on. -/
theorem Declarations.mem_range_of_successors (decls : Declarations) {id : NamedId}
    (leads : decls.successors id ≠ []) : id ∈ List.range decls.types.size := by
  by_contra outside
  have missing : decls.types[id]? = none :=
    Array.getElem?_eq_none (Nat.le_of_not_lt (outside ∘ List.mem_range.mpr))
  apply leads
  rw [successors, methodSet_of_missing missing, List.flatMap_nil]

/-- The order in which the successors of a type are listed makes no difference. -/
theorem Declarations.leads_of_perm (decls : Declarations) {next : NamedId → List NamedId}
    (perm : ∀ id, (next id).Perm (decls.successors id)) : Graph.Leads next = decls.LeadsTo := by
  rw [← leads_successors]
  funext id other
  exact propext (perm id).mem_iff

theorem Declarations.mem_reachable_of_perm (decls : Declarations) {next : NamedId → List NamedId}
    (perm : ∀ id, (next id).Perm (decls.successors id)) {seeds : List NamedId} {id : NamedId} :
    id ∈ Graph.reachable next decls.types.size seeds ↔
      ∃ seed ∈ seeds, Relation.ReflTransGen decls.LeadsTo seed id := by
  have sources : ∀ id, next id ≠ [] → id ∈ List.range decls.types.size := by
    intro id some
    apply decls.mem_range_of_successors
    rintro none
    exact some (List.Perm.eq_nil (none ▸ perm id))
  rw [Graph.mem_reachable_iff sources (by simp), decls.leads_of_perm perm]

theorem Declarations.mem_reachable_successors (decls : Declarations) {seeds : List NamedId} {id : NamedId} :
    id ∈ Graph.reachable decls.successors decls.types.size seeds ↔
      ∃ seed ∈ seeds, Relation.ReflTransGen decls.LeadsTo seed id :=
  decls.mem_reachable_of_perm fun _ => .refl _

theorem Declarations.mem_reachable_from (decls : Declarations) {id other : NamedId} :
    other ∈ Graph.reachable decls.successors decls.types.size [id] ↔
      Relation.ReflTransGen decls.LeadsTo id other := by
  rw [mem_reachable_successors]
  simp

theorem insertSorted_perm {α : Type} (key : α → String) (element : α) (elements : List α) :
    (insertSorted key element elements).Perm (element :: elements) := by
  induction elements with
  | nil => exact .refl _
  | cons head tail ih =>
    unfold insertSorted
    split
    · exact .refl _
    · exact (ih.cons head).trans (.swap element head tail)

theorem sortByKey_perm {α : Type} (key : α → String) (elements : List α) :
    (sortByKey key elements).Perm elements := by
  have onto (sorted : List α) : (elements.foldl (fun sorted element => insertSorted key element sorted)
      sorted).Perm (elements ++ sorted) := by
    induction elements generalizing sorted with
    | nil => exact .refl _
    | cons head tail ih =>
      refine (ih _).trans ?_
      exact ((insertSorted_perm key head sorted).append_left tail).trans List.perm_middle
  simpa [sortByKey] using onto []

theorem sortByKey_eq_nil {α : Type} (key : α → String) (elements : List α) :
    sortByKey key elements = [] ↔ elements = [] := by
  constructor
  · intro empty
    exact List.nil_perm.mp (empty ▸ sortByKey_perm key elements)
  · rintro rfl
    rfl

theorem addNames_eq_nil (names more : List String) : addNames names more = [] ↔ names = [] ∧ more = [] := by
  induction more generalizing names with
  | nil => simp [addNames]
  | cons name more ih =>
    rw [addNames, List.foldl_cons, ← addNames, ih]
    by_cases known : name ∈ names
    · simp [known, List.ne_nil_of_mem known]
    · simp [known]

theorem foldl_addNames_eq_nil {α : Type} (namesOf : α → List String) (items : List α)
    (names : List String) :
    items.foldl (fun names item => addNames names (namesOf item)) names = [] ↔
      names = [] ∧ ∀ item ∈ items, namesOf item = [] := by
  induction items generalizing names with
  | nil => simp
  | cons item items ih => rw [List.foldl_cons, ih, addNames_eq_nil, List.forall_mem_cons, and_assoc]

theorem lookup_map_graph {α : Type} (value : NamedId → α) (ids : List NamedId) (id : NamedId) :
    (ids.map fun id => (id, value id)).lookup id = if id ∈ ids then some (value id) else none := by
  induction ids with
  | nil => rfl
  | cons first ids ih =>
    by_cases same : id = first
    · simp [same]
    · have differs : (id == first) = false := beq_false_of_ne same
      simp [List.lookup_cons, differs, same, ih]

namespace TerminalRules

variable {rules : TerminalRules} {memo current : Memo}

/-- Has a declared type a terminal method? -/
def HasTerminal (rules : TerminalRules) (memo : Memo) (id : NamedId) : Prop :=
  ∃ method ∈ rules.markers.decls.methodSet id, (rules.isTerminal method.func memo).1 = true

/-- Does a declared type lead to one with a terminal method? -/
def Completes (rules : TerminalRules) (memo : Memo) (id : NamedId) : Prop :=
  ∃ target, Relation.ReflTransGen rules.markers.decls.LeadsTo id target ∧ rules.HasTerminal memo target

theorem Faithful.answer (faithful : rules.Faithful memo [] current) (func : FuncId) :
    (rules.isTerminal func current).1 = (rules.isTerminal func memo).1 := by
  rw [Bool.eq_iff_iff, isTerminal_iff, isTerminal_iff, faithful.same]

theorem Faithful.hasTerminal (faithful : rules.Faithful memo [] current) (id : NamedId) :
    rules.HasTerminal current id ↔ rules.HasTerminal memo id := by
  simp only [HasTerminal, faithful.answer]

theorem Faithful.completes (faithful : rules.Faithful memo [] current) (id : NamedId) :
    rules.Completes current id ↔ rules.Completes memo id := by
  simp only [Completes, faithful.hasTerminal]

theorem filterAnswers_settled (settled : rules.Settled memo) (faithful : rules.Faithful memo [] current)
    (funcs : List FuncId) :
    (filterAnswers rules.isTerminal funcs current).1 =
      funcs.filter fun func => (rules.isTerminal func memo).1 := by
  induction funcs generalizing current with
  | nil => rfl
  | cons func funcs ih =>
    simp only [filterAnswers, faithful.answer func, ih (faithful.isTerminal settled func),
      List.filter_cons]

theorem terminalNames_settled (settled : rules.Settled memo) (faithful : rules.Faithful memo [] current)
    (id : NamedId) : (rules.terminalNames id current).1 = (rules.terminalNames id memo).1 := by
  simp only [terminalNames, filterAnswers_settled settled faithful,
    filterAnswers_settled settled (Faithful.refl rules memo)]

theorem terminalNames_eq_nil (settled : rules.Settled memo) (id : NamedId) :
    (rules.terminalNames id memo).1 = [] ↔ ¬ rules.HasTerminal memo id := by
  simp only [terminalNames, sortByKey_eq_nil, List.map_eq_nil_iff,
    filterAnswers_settled settled (Faithful.refl rules memo)]
  simp [HasTerminal, List.filter_eq_nil_iff]

theorem Faithful.terminalNames (settled : rules.Settled memo) (faithful : rules.Faithful memo [] current)
    (id : NamedId) : rules.Faithful memo [] (rules.terminalNames id current).2 :=
  filterAnswers_induction _ (fun func _ faithful => faithful.isTerminal settled func) _ faithful

theorem terminalTable_settled (settled : rules.Settled memo) (faithful : rules.Faithful memo [] current)
    (ids : List NamedId) :
    (rules.terminalTable ids current).1 = ids.map fun id => (id, (rules.terminalNames id memo).1) := by
  induction ids generalizing current with
  | nil => rfl
  | cons id ids ih =>
    simp only [terminalTable, terminalNames_settled settled faithful,
      ih (faithful.terminalNames settled id), List.map_cons]

/-- The order of a table makes no difference. -/
theorem reachableNames_of_perm (rules : TerminalRules) {first second : List NamedId}
    (perm : first.Perm second) (names : NamedId → List String) :
    rules.reachableNames (first.map fun id => (id, names id)) =
      rules.reachableNames (second.map fun id => (id, names id)) := by
  funext id
  simp only [reachableNames, lookup_map_graph, perm.mem_iff]

/-- A type of a table that holds all it leads to has no names exactly if it leads to no type with
a terminal method. -/
theorem reachableNames_eq_nil (settled : rules.Settled memo) {ids : List NamedId} {id : NamedId}
    (closed : ∀ other, Relation.ReflTransGen rules.markers.decls.LeadsTo id other → other ∈ ids) :
    rules.reachableNames (ids.map fun id => (id, (rules.terminalNames id memo).1)) id = [] ↔
      ¬ rules.Completes memo id := by
  -- The table has the names of all types on the way.
  have names (other : NamedId) (way : Relation.ReflTransGen rules.markers.decls.LeadsTo id other) :
      ((ids.map fun id => (id, (rules.terminalNames id memo).1)).lookup other).getD [] = [] ↔
        ¬ rules.HasTerminal memo other := by
    rw [lookup_map_graph, if_pos (closed other way), Option.getD_some, terminalNames_eq_nil settled]
  rw [reachableNames, foldl_addNames_eq_nil, names id .refl]
  constructor
  · rintro ⟨-, none⟩ ⟨target, way, terminal⟩
    exact (names target way).mp (none target ((Declarations.mem_reachable_from _).mpr way)) terminal
  · intro incomplete
    refine ⟨fun terminal => incomplete ⟨id, .refl, terminal⟩, fun other member => ?_⟩
    have way := (Declarations.mem_reachable_from _).mp member
    exact (names other way).mpr fun terminal => incomplete ⟨other, way, terminal⟩

def visited (rules : TerminalRules) (results : List Ty) : List NamedId :=
  Graph.reachable rules.markers.decls.successors rules.markers.decls.types.size
    (results.filterMap rules.markers.decls.base?)

theorem mem_visited {results : List Ty} {id : NamedId} :
    id ∈ rules.visited results ↔ ∃ result ∈ results, ∃ seed,
      rules.markers.decls.base? result = some seed ∧
        Relation.ReflTransGen rules.markers.decls.LeadsTo seed id := by
  simp only [visited, Declarations.mem_reachable_successors, List.mem_filterMap]
  constructor
  · rintro ⟨seed, ⟨result, member, base⟩, way⟩
    exact ⟨result, member, seed, base, way⟩
  · rintro ⟨result, member, seed, base, way⟩
    exact ⟨seed, ⟨result, member, base⟩, way⟩

theorem stages_eq (order : VisitOrder) (results : List Ty) (memo : Memo) :
    (rules.stages order results memo).1 = (rules.visited results).filterMap fun id =>
      match rules.reachableNames (rules.terminalTable (order.arrange (rules.visited results)) memo).1 id with
      | [] => none
      | names => some (id, sortByKey (fun name => name) names) := rfl

theorem stages_lookup_isSome (settled : rules.Settled memo) (order : VisitOrder) (results : List Ty)
    (id : NamedId) :
    ((rules.stages order results memo).1.lookup id).isSome = true ↔
      id ∈ rules.visited results ∧ rules.Completes memo id := by
  have names {id : NamedId} (member : id ∈ rules.visited results) :=
    reachableNames_eq_nil settled fun other way => by
      obtain ⟨result, listed, seed, base, before⟩ := mem_visited.mp member
      exact (order.perm _).mem_iff.mpr (mem_visited.mpr ⟨result, listed, seed, base, before.trans way⟩)
  rw [stages_eq, terminalTable_settled settled (Faithful.refl rules memo)]
  simp only [List.lookup_isSome_iff, List.mem_filterMap, beq_iff_eq]
  constructor
  · rintro ⟨entry, ⟨other, member, stage⟩, rfl⟩
    split at stage
    next => cases stage
    next some =>
      cases stage
      exact ⟨member, not_not.mp ((names member).not.mp some)⟩
  · rintro ⟨member, completes⟩
    obtain ⟨name, rest, found⟩ := List.exists_cons_of_ne_nil
      ((names member).not.mpr (not_not.mpr completes))
    exact ⟨(id, sortByKey (fun name => name) (name :: rest)), ⟨id, member, by rw [found]⟩, rfl⟩

end TerminalRules

end Fluent
