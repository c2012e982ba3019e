import Fluent.Proofs.Index.Eligibility
import Fluent.Proofs.Index.Propagation

/-! Stages do not depend on the order in which they are found.

The names of a stage are those of all types that it leads to. They may be gathered type by type,
or be passed back from type to type until nothing changes. The result is the same, for any order
of the entry points, of the successors of a type and of the types in each round. -/

set_option autoImplicit false

namespace Fluent

/-- The types that have names, in some order, each with its names sorted. -/
def listStages (order : List NamedId) (names : NamedId → List String) : StageTable :=
  order.filterMap fun id =>
    match names id with
    | [] => none
    | names => some (id, sortByKey (fun name => name) names)

theorem lookup_listStages (order : List NamedId) (names : NamedId → List String) (id : NamedId) :
    (listStages order names).lookup id =
      if id ∈ order ∧ names id ≠ [] then some (sortByKey (fun name => name) (names id)) else none := by
  induction order with
  | nil => simp [listStages]
  | cons first order ih =>
    rw [listStages, List.filterMap_cons, ← listStages]
    by_cases same : id = first
    · subst same
      cases listed : names id with
      | nil =>
        rw [ih]
        simp [listed]
      | cons name rest => simp
    · have differs : (id == first) = false := beq_false_of_ne same
      cases names first <;> simp [List.lookup_cons, differs, same, ih]

/-- Tables of the same types are alike if the names of each type differ in order only. -/
theorem lookup_listStages_of_perm {first second : List NamedId} {names others : NamedId → List String}
    (same : ∀ id, id ∈ first ↔ id ∈ second) (perm : ∀ id ∈ first, (names id).Perm (others id)) (id : NamedId) :
    (listStages first names).lookup id = (listStages second others).lookup id := by
  simp only [lookup_listStages, ← same]
  by_cases member : id ∈ first
  · have alike := perm id member
    have empty : names id = [] ↔ others id = [] := by
      rw [← List.length_eq_zero_iff, alike.length_eq, List.length_eq_zero_iff]
    simp only [ne_eq, empty, sortByKey_eq_of_perm alike]
  · simp [member]

namespace Declarations

variable {decls : Declarations} {names : NamedId → List String} {id : NamedId} {listed other : List String}

/-- Does a list hold the names of all types that a type leads to? It begins with the type's own. -/
structure Gathers (decls : Declarations) (names : NamedId → List String) (id : NamedId)
    (listed : List String) : Prop where
  widens : Widens (names id) listed
  members : ∀ name, name ∈ listed ↔ ∃ target,
    Relation.ReflTransGen decls.LeadsTo id target ∧ name ∈ names target

theorem Gathers.perm (first : decls.Gathers names id listed) (second : decls.Gathers names id other) :
    listed.Perm other :=
  first.widens.perm second.widens fun name => by rw [first.members, second.members]

theorem Gathers.ne_nil (gathers : decls.Gathers names id listed) :
    listed ≠ [] ↔ ∃ target, Relation.ReflTransGen decls.LeadsTo id target ∧ names target ≠ [] := by
  constructor
  · intro present
    obtain ⟨name, member⟩ := List.exists_mem_of_ne_nil _ present
    obtain ⟨target, way, named⟩ := (gathers.members name).mp member
    exact ⟨target, way, List.ne_nil_of_mem named⟩
  · rintro ⟨target, way, present⟩
    obtain ⟨name, named⟩ := List.exists_mem_of_ne_nil _ present
    exact List.ne_nil_of_mem ((gathers.members name).mpr ⟨target, way, named⟩)

/-- The types that a search from the first results of entry points comes to. -/
def visitedBy (decls : Declarations) (next : NamedId → List NamedId) (entries : List Method) : List NamedId :=
  Graph.reachable next decls.types.size ((entries.filterMap decls.resultOf?).filterMap decls.base?)

theorem mem_visitedBy {next : NamedId → List NamedId} (perm : ∀ id, (next id).Perm (decls.successors id))
    {entries : List Method} : id ∈ decls.visitedBy next entries ↔
      ∃ entry ∈ entries, ∃ result seed, decls.resultOf? entry = some result ∧
        decls.base? result = some seed ∧ Relation.ReflTransGen decls.LeadsTo seed id := by
  simp only [visitedBy, decls.mem_reachable_of_perm perm, List.mem_filterMap]
  constructor
  · rintro ⟨seed, ⟨result, ⟨entry, member, first⟩, base⟩, way⟩
    exact ⟨entry, member, result, seed, first, base, way⟩
  · rintro ⟨entry, member, result, seed, first, base, way⟩
    exact ⟨seed, ⟨result, ⟨entry, member, first⟩, base⟩, way⟩

theorem visitedBy_closed {next : NamedId → List NamedId} (perm : ∀ id, (next id).Perm (decls.successors id))
    {entries : List Method} {target : NamedId} (member : id ∈ decls.visitedBy next entries)
    (way : Relation.ReflTransGen decls.LeadsTo id target) : target ∈ decls.visitedBy next entries := by
  obtain ⟨entry, listed, result, seed, first, base, before⟩ := (mem_visitedBy perm).mp member
  exact (mem_visitedBy perm).mpr ⟨entry, listed, result, seed, first, base, before.trans way⟩

/-- Names that are passed back from type to type come to rest, and each type has then gathered its
names. -/
theorem exists_gathered {next : NamedId → List NamedId} (perm : ∀ id, (next id).Perm (decls.successors id))
    {entries : List Method} {orders : Nat → List NamedId}
    (complete : ∀ round, (orders round).Perm (decls.visitedBy next entries)) {start : NamedId → List String}
    (given : ∀ id ∈ decls.visitedBy next entries, start id = names id) :
    ∃ rounds, Graph.EndsAfter next orders start rounds ∧ ∀ id ∈ decls.visitedBy next entries,
      decls.Gathers names id (Graph.sweeps next orders start rounds id) := by
  have leads := decls.leads_of_perm perm
  have closed : ∀ id ∈ decls.visitedBy next entries, next id ⊆ decls.visitedBy next entries := by
    intro id member other edge
    have step : decls.LeadsTo id other := leads ▸ edge
    exact visitedBy_closed perm member (.single step)
  obtain ⟨rounds, ends⟩ := Graph.exists_endsAfter closed
    (fun round id member => (complete round).mem_iff.mp member) start
  have grown := Graph.grown_sweeps next orders start rounds
  refine ⟨rounds, ends, fun id member => ?_⟩
  -- What the table held at the start matters only for types that are visited.
  constructor
  · rw [← given id member]
    exact (grown id).widens
  · intro name
    rw [Graph.mem_of_fixed closed (fun id inside => (complete rounds).mem_iff.mpr inside) grown ends.1 member, leads]
    refine exists_congr fun target => and_congr_right fun way => ?_
    rw [given target (visitedBy_closed perm member way)]

end Declarations

namespace TerminalRules

variable {rules : TerminalRules} {memo later : Memo}

/-- The stages that there are if the types have given terminal names. -/
def stagesFor (rules : TerminalRules) (names : NamedId → List String) (entries : List Method) : StageTable :=
  let types := rules.markers.decls.visitedBy rules.markers.decls.successors entries
  listStages types (rules.reachableNames (types.map fun id => (id, names id)))

theorem gathers_reachableNames {entries : List Method} {names : NamedId → List String} {id : NamedId}
    (member : id ∈ rules.markers.decls.visitedBy rules.markers.decls.successors entries) :
    rules.markers.decls.Gathers names id (rules.reachableNames
      ((rules.markers.decls.visitedBy rules.markers.decls.successors entries).map fun id => (id, names id)) id) := by
  -- The table has the names of all types that the type leads to.
  have noted (other : NamedId) (way : Relation.ReflTransGen rules.markers.decls.LeadsTo id other) :
      (((rules.markers.decls.visitedBy rules.markers.decls.successors entries).map
        fun id => (id, names id)).lookup other).getD [] = names other := by
    rw [lookup_map_graph, if_pos (Declarations.visitedBy_closed (fun _ => .refl _) member way), Option.getD_some]
  constructor
  · rw [reachableNames, noted id .refl]
    apply List.foldlRecOn _ _ (Widens.refl _)
    exact fun _ widens other _ => widens.addNames _
  · intro name
    rw [reachableNames, mem_foldl_addNames, noted id .refl]
    constructor
    · rintro (own | ⟨target, listed, named⟩)
      · exact ⟨id, .refl, own⟩
      · have way := rules.markers.decls.mem_reachable_from.mp listed
        exact ⟨target, way, noted target way ▸ named⟩
    · rintro ⟨target, way, named⟩
      exact Or.inr ⟨target, rules.markers.decls.mem_reachable_from.mpr way, (noted target way).symm ▸ named⟩

theorem terminalTable_eq {ids : List NamedId} (extended : later.Extends (rules.terminalTable ids memo).2) :
    (rules.terminalTable ids memo).1 = ids.map fun id => (id, (rules.terminalNames id later).1) := by
  induction ids generalizing memo with
  | nil => rfl
  | cons id ids ih =>
    have table := rules.terminalTable_extends ids (rules.terminalNames id memo).2
    have rest : (rules.terminalTable ids (rules.terminalNames id memo).2).1 = _ := ih extended
    simp only [terminalTable, List.map_cons, rules.terminalNames_later id (extended.trans table), rest]

/-- The stages of an index are those for the terminal names that its types have in the end. -/
theorem stages_eq_stagesFor (rules : TerminalRules) (entries : List Method) (order : VisitOrder)
    (memo : Memo) :
    (rules.stages order (entries.filterMap rules.markers.decls.resultOf?) memo).1 =
      rules.stagesFor (fun id => (rules.terminalNames id
        (rules.stages order (entries.filterMap rules.markers.decls.resultOf?) memo).2).1) entries := by
  rw [stages_eq, terminalTable_eq (Memo.Extends.refl _), reachableNames_of_perm rules (order.perm _)]
  rfl

/-- The stages that entry points lead to, where each type has any terminal names. A type is a stage
exactly if it is reached from the first result of an entry point and leads to a type with names. Its
names are sorted, they are those of all types that it leads to, and none is repeated if it has none
of its own.

The same stages are found if names are passed back from type to type. The entry points may come in
any order, the successors of a type in any order, and the types in any order in each round and in
the end. The rounds come to an end. -/
theorem stages_gather_names (rules : TerminalRules) (entries : List Method) (names : NamedId → List String) :
    let decls := rules.markers.decls
    let results := entries.filterMap decls.resultOf?
    (∀ order memo, (rules.stages order results memo).1 = rules.stagesFor
      (fun id => (rules.terminalNames id (rules.stages order results memo).2).1) entries) ∧
    (∀ id, ((rules.stagesFor names entries).lookup id).isSome = true ↔
      (∃ entry ∈ entries, ∃ result seed, decls.resultOf? entry = some result ∧
        decls.base? result = some seed ∧ Relation.ReflTransGen decls.LeadsTo seed id) ∧
      ∃ target, Relation.ReflTransGen decls.LeadsTo id target ∧ names target ≠ []) ∧
    (∀ id listed, (rules.stagesFor names entries).lookup id = some listed →
      listed.Pairwise (· ≤ ·) ∧
      (∀ name, name ∈ listed ↔
        ∃ target, Relation.ReflTransGen decls.LeadsTo id target ∧ name ∈ names target) ∧
      (names id = [] → listed.Pairwise (· < ·))) ∧
    ∀ (turned : List Method) (next : NamedId → List NamedId) (orders : Nat → List NamedId)
      (last : List NamedId) (start : NamedId → List String),
      turned.Perm entries → (∀ id, (next id).Perm (decls.successors id)) →
      (∀ round, (orders round).Perm (decls.visitedBy next turned)) → last.Perm (decls.visitedBy next turned) →
      (∀ id ∈ decls.visitedBy next turned, start id = names id) →
      ∃ rounds, Graph.EndsAfter next orders start rounds ∧
        ∀ id, (listStages last (Graph.sweeps next orders start rounds)).lookup id =
          (rules.stagesFor names entries).lookup id := by
  intro decls results
  have plain (id : NamedId) : (decls.successors id).Perm (decls.successors id) := .refl _
  have gathers {id : NamedId} (member : id ∈ decls.visitedBy decls.successors entries) :=
    @gathers_reachableNames rules entries names id member
  refine ⟨rules.stages_eq_stagesFor entries, fun id => ?_, fun id listed found => ?_, ?_⟩
  · rw [stagesFor, lookup_listStages, Option.isSome_ite, ← Declarations.mem_visitedBy plain]
    exact and_congr_right fun member => (gathers member).ne_nil
  · rw [stagesFor, lookup_listStages] at found
    split at found
    next isStage =>
      cases found
      have gathered := gathers isStage.1
      have sorted := sortByKey_pairwise (fun name : String => name) (rules.reachableNames
        ((decls.visitedBy decls.successors entries).map fun id => (id, names id)) id)
      refine ⟨sorted, fun name => ?_, fun none => ?_⟩
      · rw [(sortByKey_perm _ _).mem_iff, gathered.members]
      · have widens := gathered.widens
        rw [none] at widens
        have nodup := (sortByKey_perm (fun name : String => name) _).nodup_iff.mpr widens.nodup
        exact (sorted.and nodup).imp fun pair => lt_of_le_of_ne pair.1 pair.2
    next => cases found
  · intro turned next orders last start same perm complete listing given
    -- Both ways come to the same types and gather the same names for them, if in another order.
    have visited (id : NamedId) :
        id ∈ decls.visitedBy next turned ↔ id ∈ decls.visitedBy decls.successors entries := by
      simp only [Declarations.mem_visitedBy perm, Declarations.mem_visitedBy plain, same.mem_iff]
    obtain ⟨rounds, ends, gathered⟩ := Declarations.exists_gathered perm complete given
    refine ⟨rounds, ends, fun id => ?_⟩
    apply lookup_listStages_of_perm
    · exact fun id => listing.mem_iff.trans (visited id)
    · intro id member
      have inside := listing.mem_iff.mp member
      exact (gathered id inside).perm (gathers ((visited id).mp inside))

end TerminalRules

namespace Sample

/-- The name of the query is passed back to the step. -/
theorem layered_passed_back :
    ∃ rounds, Graph.EndsAfter layered.program.decls.successors (fun _ => [2, 3, 1])
        (fun id => if id = 1 then ["Done"] else []) rounds ∧
      (listStages [3, 1, 2] (Graph.sweeps layered.program.decls.successors (fun _ => [2, 3, 1])
        (fun id => if id = 1 then ["Done"] else []) rounds)).lookup 2 = some ["Done"] := by
  obtain ⟨-, -, -, passed⟩ := layered.terminalRules.stages_gather_names layered.entryPoints
    (fun id => if id = 1 then ["Done"] else [])
  obtain ⟨rounds, ends, same⟩ := passed layered.entryPoints.reverse layered.program.decls.successors
    (fun _ => [2, 3, 1]) [3, 1, 2] _ (List.reverse_perm _) (fun _ => .refl _)
    (fun _ => by decide +kernel) (by decide +kernel) (fun _ _ => rfl)
  exact ⟨rounds, ends, (same 2).trans (by decide +kernel)⟩

end Sample

end Fluent
