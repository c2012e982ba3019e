import Fluent.Proofs.Index.Names
import Mathlib.Algebra.GroupWithZero.Nat
import Mathlib.Algebra.Order.BigOperators.Group.List
import Mathlib.Data.List.Infix
import Mathlib.Data.List.Sort

/-! Names that are passed back along the edges of a graph.

Each node has some names of its own. In a round, every node takes over what it lacks of the names
of its successors, and rounds follow each other until one changes nothing. The nodes may come in
another order in each round. The loop comes to an end all the same, and every node then has the
names of all nodes that it leads to. Its list begins with its own names and repeats none of
them. -/

set_option autoImplicit false

namespace Fluent

/-- Does a list begin with some names and go on with others, each once? -/
def Widens (own listed : List String) : Prop :=
  ∃ more, listed = own ++ more ∧ more.Nodup ∧ ∀ name ∈ more, name ∉ own

namespace Widens

variable {own listed other : List String}

theorem refl (own : List String) : Widens own own :=
  ⟨[], (List.append_nil own).symm, List.nodup_nil, fun _ member => nomatch member⟩

theorem addNames (widens : Widens own listed) (names : List String) :
    Widens own (Fluent.addNames listed names) := by
  apply List.foldlRecOn _ _ widens
  rintro listed ⟨more, rfl, nodup, apart⟩ name -
  split
  next => exact ⟨more, rfl, nodup, apart⟩
  next new =>
    rw [List.mem_append, not_or] at new
    refine ⟨more ++ [name], List.append_assoc _ _ _, ?_, ?_⟩
    · exact List.nodup_append.mpr ⟨nodup, List.nodup_singleton name, fun _ member _ same equal =>
        new.2 (by rwa [← List.mem_singleton.mp same, ← equal])⟩
    · exact List.forall_mem_append.mpr ⟨apart, List.forall_mem_singleton.mpr new.1⟩

theorem nodup (widens : Widens [] listed) : listed.Nodup := by
  obtain ⟨more, rfl, nodup, -⟩ := widens
  exact nodup

/-- Two lists that widen the same one and have the same members differ in order only. -/
theorem perm (first : Widens own listed) (second : Widens own other)
    (same : ∀ name, name ∈ listed ↔ name ∈ other) : listed.Perm other := by
  obtain ⟨more, rfl, nodup, apart⟩ := first
  obtain ⟨further, rfl, nodup', apart'⟩ := second
  apply List.Perm.append_left
  rw [List.perm_ext_iff_of_nodup nodup nodup']
  intro name
  have members := same name
  rw [List.mem_append, List.mem_append] at members
  constructor
  · intro member
    exact (members.mp (Or.inr member)).resolve_left (apart name member)
  · intro member
    exact (members.mpr (Or.inr member)).resolve_left (apart' name member)

end Widens

theorem isPrefix_addNames (names more : List String) : names <+: addNames names more := by
  apply List.foldlRecOn (motive := fun listed => names <+: listed) _ _ (List.prefix_refl names)
  intro listed before name _
  split
  next => exact before
  next => exact before.trans (List.prefix_append listed [name])

theorem sortByKey_eq_of_perm {first second : List String} (perm : first.Perm second) :
    sortByKey (fun name => name) first = sortByKey (fun name => name) second := by
  apply List.Perm.eq_of_pairwise' (sortByKey_pairwise _ first) (sortByKey_pairwise _ second)
  exact (sortByKey_perm _ first).trans (perm.trans (sortByKey_perm _ second).symm)

namespace Graph

section Ways

variable {α : Type} {next : α → List α} {order nodes : List α} {names table : α → List String} {node other : α}

def edges (next : α → List α) (order : List α) : List (α × α) :=
  order.flatMap fun node => (next node).map fun other => (node, other)

theorem mem_edges : (node, other) ∈ edges next order ↔ node ∈ order ∧ other ∈ next node := by
  simp [edges]

theorem reached_mem (closed : ∀ node ∈ nodes, next node ⊆ nodes) (member : node ∈ nodes)
    (way : Relation.ReflTransGen (Leads next) node other) : other ∈ nodes := by
  induction way with
  | refl => exact member
  | tail _ edge ih => exact closed _ ih edge

/-- What a table holds for a node that has taken over names: its own in front, and others only of
nodes that it leads to. -/
structure Grown (next : α → List α) (names table : α → List String) (node : α) : Prop where
  widens : Widens (names node) (table node)
  reached : ∀ name ∈ table node, ∃ target,
    Relation.ReflTransGen (Leads next) node target ∧ name ∈ names target

theorem Grown.refl (next : α → List α) (names : α → List String) (node : α) : Grown next names names node :=
  ⟨Widens.refl _, fun _ member => ⟨node, .refl, member⟩⟩

/-- A node never has more names than its own and those of all nodes together. -/
theorem Grown.length_le (closed : ∀ node ∈ nodes, next node ⊆ nodes) (grown : Grown next names table node)
    (member : node ∈ nodes) :
    (table node).length ≤ (names node).length + (nodes.flatMap names).length := by
  obtain ⟨more, listed, nodup, -⟩ := grown.widens
  have within : more ⊆ nodes.flatMap names := by
    intro name later
    obtain ⟨target, way, named⟩ := grown.reached name (listed ▸ List.mem_append_right _ later)
    exact List.mem_flatMap.mpr ⟨target, reached_mem closed member way, named⟩
  rw [listed, List.length_append]
  exact Nat.add_le_add_left (List.subperm_of_subset nodup within).length_le _

end Ways

variable {α : Type} [DecidableEq α]

/-- The source of an edge takes over the names of its target. -/
def pass (table : α → List String) (edge : α × α) : α → List String :=
  Function.update table edge.1 (addNames (table edge.1) (table edge.2))

/-- One round, through the nodes in some order and from each to its successors. -/
def sweep (next : α → List α) (order : List α) (table : α → List String) : α → List String :=
  (edges next order).foldl pass table

/-- The table after a number of rounds, each with an order of its own. -/
def sweeps (next : α → List α) (orders : Nat → List α) (table : α → List String) : Nat → α → List String
  | 0 => table
  | rounds + 1 => sweep next (orders rounds) (sweeps next orders table rounds)

/-- The first round that changes nothing comes after a number of others. -/
def EndsAfter (next : α → List α) (orders : Nat → List α) (table : α → List String) (rounds : Nat) : Prop :=
  sweeps next orders table (rounds + 1) = sweeps next orders table rounds ∧
    ∀ earlier < rounds, sweeps next orders table (earlier + 1) ≠ sweeps next orders table earlier

variable {next : α → List α} {order nodes : List α} {orders : Nat → List α} {names table : α → List String}
  {node other : α}

theorem pass_other (differs : other ≠ node) (target : α) : pass table (node, target) other = table other :=
  Function.update_of_ne differs _ _

theorem isPrefix_pass (table : α → List String) (edge : α × α) (node : α) :
    table node <+: pass table edge node := by
  by_cases same : node = edge.1
  · rw [same, pass, Function.update_self]
    exact isPrefix_addNames _ _
  · rw [pass, Function.update_of_ne same]

theorem isPrefix_foldl_pass (edges : List (α × α)) (table : α → List String) (node : α) :
    table node <+: edges.foldl pass table node := by
  refine List.foldlRecOn (motive := fun later : α → List String => table node <+: later node) edges pass
    (List.prefix_refl _) ?_
  intro later before edge _
  exact before.trans (isPrefix_pass later edge node)

/-- If a round changes nothing, none of its steps does. -/
theorem pass_of_foldl_pass {edges : List (α × α)} (fixed : edges.foldl pass table = table) :
    ∀ edge ∈ edges, pass table edge = table := by
  induction edges with
  | nil => exact fun _ member => nomatch member
  | cons edge edges ih =>
    rw [List.foldl_cons] at fixed
    -- The rest of the round takes nothing away, so the first step cannot have added anything.
    have idle : pass table edge = table := by
      funext node
      have back := isPrefix_foldl_pass edges (pass table edge) node
      rw [fixed] at back
      exact antisymm back (isPrefix_pass table edge node)
    rw [idle] at fixed
    exact List.forall_mem_cons.mpr ⟨idle, ih fixed⟩

theorem subset_of_sweep (fixed : sweep next order table = table) (member : node ∈ order)
    (leads : other ∈ next node) : table other ⊆ table node := by
  have idle := congrFun (pass_of_foldl_pass fixed (node, other) (mem_edges.mpr ⟨member, leads⟩)) node
  rw [pass, Function.update_self] at idle
  intro name noted
  rw [← idle]
  exact mem_addNames.mpr (Or.inr noted)

theorem Grown.pass (grown : ∀ node, Grown next names table node) (leads : other ∈ next node) :
    ∀ third, Grown next names (Graph.pass table (node, other)) third := by
  intro third
  by_cases same : third = node
  · subst same
    constructor
    · rw [Graph.pass, Function.update_self]
      exact (grown third).widens.addNames _
    · intro name noted
      rw [Graph.pass, Function.update_self, mem_addNames] at noted
      rcases noted with own | taken
      · exact (grown third).reached name own
      · obtain ⟨target, way, named⟩ := (grown other).reached name taken
        exact ⟨target, .head leads way, named⟩
  · constructor
    · rw [pass_other same]
      exact (grown third).widens
    · rw [pass_other same]
      exact (grown third).reached

theorem grown_sweep (grown : ∀ node, Grown next names table node) (order : List α) :
    ∀ node, Grown next names (sweep next order table) node := by
  apply List.foldlRecOn (motive := fun table => ∀ node, Grown next names table node) _ _ grown
  intro table grown edge member
  exact Grown.pass grown (mem_edges.mp member).2

theorem grown_sweeps (next : α → List α) (orders : Nat → List α) (names : α → List String) (rounds : Nat) :
    ∀ node, Grown next names (sweeps next orders names rounds) node := by
  induction rounds with
  | zero => exact Grown.refl next names
  | succ rounds ih => exact grown_sweep ih (orders rounds)

/-- A round changes only the nodes that it goes through. -/
theorem sweep_outside (outside : node ∉ order) : sweep next order table node = table node := by
  apply List.foldlRecOn (motive := fun later : α → List String => later node = table node) _ _ rfl
  rintro later same ⟨source, target⟩ member
  have differs : node ≠ source := fun equal => outside (equal ▸ (mem_edges.mp member).1)
  rw [pass_other differs, same]

/-- Where nothing is left to pass on, the names of a node are those of the nodes that it leads to. -/
theorem mem_of_fixed (closed : ∀ node ∈ nodes, next node ⊆ nodes) (complete : ∀ node ∈ nodes, node ∈ order)
    (grown : ∀ node, Grown next names table node) (fixed : sweep next order table = table)
    (member : node ∈ nodes) {name : String} :
    name ∈ table node ↔ ∃ target, Relation.ReflTransGen (Leads next) node target ∧ name ∈ names target := by
  apply Iff.intro ((grown node).reached name)
  rintro ⟨target, way, named⟩
  -- The name has come back along the way, edge by edge from its end.
  induction way using Relation.ReflTransGen.head_induction_on with
  | refl =>
    obtain ⟨more, listed, -⟩ := (grown target).widens
    rw [listed]
    exact List.mem_append_left _ named
  | @head node third edge _ ih =>
    exact subset_of_sweep fixed (complete node member) edge (ih (closed node member edge))

def total (nodes : List α) (table : α → List String) : Nat :=
  (nodes.map fun node => (table node).length).sum

theorem total_lt_sweep (complete : ∀ node ∈ order, node ∈ nodes) (changed : sweep next order table ≠ table) :
    total nodes table < total nodes (sweep next order table) := by
  obtain ⟨node, differs⟩ := Function.ne_iff.mp changed
  have longer (node : α) := isPrefix_foldl_pass (edges next order) table node
  -- A node that differs has been gone through, and its list has become longer.
  apply List.sum_lt_sum
  · exact fun node _ => (longer node).length_le
  · refine ⟨node, ?_, Nat.lt_of_le_of_ne (longer node).length_le fun same => ?_⟩
    · by_contra outside
      exact differs (sweep_outside fun member => outside (complete node member))
    · exact differs ((longer node).eq_of_length same).symm

/-- The loop comes to an end, since each round before adds a name and there is only room for so many. -/
theorem exists_endsAfter (closed : ∀ node ∈ nodes, next node ⊆ nodes)
    (complete : ∀ round, ∀ node ∈ orders round, node ∈ nodes) (names : α → List String) :
    ∃ rounds, EndsAfter next orders names rounds := by
  have idle : ∃ rounds, sweeps next orders names (rounds + 1) = sweeps next orders names rounds := by
    by_contra never
    have changes (rounds : Nat) := not_exists.mp never rounds
    -- The lists would outgrow the room that there is for them.
    have many (rounds : Nat) : rounds ≤ total nodes (sweeps next orders names rounds) := by
      induction rounds with
      | zero => exact Nat.zero_le _
      | succ rounds ih => exact Nat.succ_le_of_lt (ih.trans_lt (total_lt_sweep (complete rounds) (changes rounds)))
    have room (rounds : Nat) : total nodes (sweeps next orders names rounds) ≤
        (nodes.map fun node => (names node).length + (nodes.flatMap names).length).sum :=
      List.sum_le_sum fun node member => (grown_sweeps next orders names rounds node).length_le closed member
    exact Nat.not_succ_le_self _ ((many _).trans (room _))
  classical
  exact ⟨Nat.find idle, Nat.find_spec idle, fun _ before => Nat.find_min idle before⟩

end Graph

end Fluent
