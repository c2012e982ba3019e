import Fluent.Types.Declarations
import Mathlib.Data.List.Basic
import Mathlib.Logic.Relation

/-! Spreading through a finite graph finds all that can be reached.

In each round the nodes of the frontier are done with: their successors are known. A round
is needed only while the frontier holds a node that has successors, so as many rounds
suffice as there are such nodes. -/

set_option autoImplicit false

namespace Fluent.Graph

variable {α : Type} [DecidableEq α] {next : α → List α}

def Leads (next : α → List α) (node other : α) : Prop := other ∈ next node

theorem mem_fresh {known nodes : List α} {node : α} :
    node ∈ fresh known nodes ↔ node ∈ nodes ∧ node ∉ known := by
  induction nodes generalizing known with
  | nil => simp [fresh]
  | cons first nodes ih =>
    unfold fresh
    split
    next member =>
      rw [ih, List.mem_cons]
      constructor
      · rintro ⟨later, unknown⟩
        exact ⟨Or.inr later, unknown⟩
      · rintro ⟨rfl | later, unknown⟩
        · exact (unknown member).elim
        · exact ⟨later, unknown⟩
    next absent =>
      rw [List.mem_cons, ih, List.mem_cons, List.mem_cons]
      by_cases same : node = first
      · simp [same, absent]
      · simp [same]

theorem spread_nil (rounds : Nat) (known : List α) : spread next rounds known [] = known := by
  induction rounds generalizing known with
  | zero => rfl
  | succ rounds ih => simp [spread, fresh, ih]

theorem known_subset_spread (rounds : Nat) (known frontier : List α) :
    known ⊆ spread next rounds known frontier := by
  induction rounds generalizing known frontier with
  | zero => exact fun _ member => member
  | succ rounds ih => exact fun node member => ih _ _ (List.mem_append_left _ member)

theorem reached_of_mem_spread {seeds : List α} {rounds : Nat} {known frontier : List α}
    (reached : ∀ node ∈ known, ∃ seed ∈ seeds, Relation.ReflTransGen (Leads next) seed node)
    (within : frontier ⊆ known) : ∀ node ∈ spread next rounds known frontier,
      ∃ seed ∈ seeds, Relation.ReflTransGen (Leads next) seed node := by
  induction rounds generalizing known frontier with
  | zero => exact reached
  | succ rounds ih =>
    apply ih
    · refine List.forall_mem_append.mpr ⟨reached, fun node member => ?_⟩
      obtain ⟨source, isSource, edge⟩ := List.mem_flatMap.mp (mem_fresh.mp member).1
      obtain ⟨seed, isSeed, way⟩ := reached source (within isSource)
      exact ⟨seed, isSeed, way.tail edge⟩
    · exact List.subset_append_right _ _

def undone (nodes known frontier : List α) : List α :=
  nodes.filter fun node => node ∉ known ∨ node ∈ frontier

/-- A round that does something leaves fewer nodes to be done with. -/
theorem undone_lt {nodes known frontier found : List α} (within : frontier ⊆ known)
    (new : ∀ node ∈ found, node ∉ known) {node : α} (member : node ∈ nodes)
    (isFrontier : node ∈ frontier) :
    (undone nodes (known ++ found) found).length < (undone nodes known frontier).length := by
  have fewer : (undone nodes (known ++ found) found).Sublist (undone nodes known frontier) := by
    apply List.monotone_filter_right
    intro other
    simp only [decide_eq_true_eq, List.mem_append, not_or]
    rintro (⟨unknown, -⟩ | isFound)
    · exact Or.inl unknown
    · exact Or.inl (new other isFound)
  refine Nat.lt_of_le_of_ne fewer.length_le fun same => ?_
  -- Equal lengths would mean equal lists, but the node of the frontier has been done with.
  have isUndone : node ∈ undone nodes known frontier := by simp [undone, member, isFrontier]
  rw [← fewer.eq_of_length same] at isUndone
  simp only [undone, List.mem_filter, List.mem_append, not_or, decide_eq_true_eq] at isUndone
  rcases isUndone.2 with ⟨unknown, -⟩ | isFound
  · exact unknown (within isFrontier)
  · exact new node isFound (within isFrontier)

theorem spread_idle {frontier : List α} (idle : frontier.flatMap next = []) (rounds : Nat)
    (known : List α) : spread next rounds known frontier = known := by
  cases rounds with
  | zero => rfl
  | succ rounds => simp [spread, idle, fresh, spread_nil]

/-- With enough rounds, the successors of all nodes are found. -/
theorem spread_closed {nodes : List α} (sources : ∀ node, next node ≠ [] → node ∈ nodes)
    {rounds : Nat} {known frontier : List α} (within : frontier ⊆ known)
    (done : ∀ node ∈ known, node ∉ frontier → next node ⊆ known)
    (enough : (undone nodes known frontier).length ≤ rounds) :
    ∀ node ∈ spread next rounds known frontier, next node ⊆ spread next rounds known frontier := by
  induction rounds generalizing known frontier with
  | zero =>
    intro node member
    by_cases waiting : node ∈ frontier
    · have last : next node = [] := by
        by_contra some
        have isUndone : node ∈ undone nodes known frontier := by
          simp [undone, sources node some, waiting]
        rw [List.length_eq_zero_iff.mp (Nat.le_zero.mp enough)] at isUndone
        cases isUndone
      rw [last]
      exact List.nil_subset _
    · exact done node member waiting
  | succ rounds ih =>
    -- After the round the successors of all nodes known before are known.
    have advanced : ∀ node ∈ known, next node ⊆ known ++ fresh known (frontier.flatMap next) := by
      intro node isKnown other edge
      by_cases familiar : other ∈ known
      · exact List.mem_append_left _ familiar
      · have waiting : node ∈ frontier := by
          by_contra old
          exact familiar (done node isKnown old edge)
        exact List.mem_append_right _
          (mem_fresh.mpr ⟨List.mem_flatMap.mpr ⟨node, waiting, edge⟩, familiar⟩)
    by_cases idle : frontier.flatMap next = []
    · rw [spread_idle idle]
      intro node member
      have known := advanced node member
      rwa [idle, fresh, List.append_nil] at known
    · -- A node of the frontier with successors is done with in this round.
      obtain ⟨node, isFrontier, some⟩ : ∃ node ∈ frontier, next node ≠ [] := by
        simpa [List.flatMap_eq_nil_iff] using idle
      have new : ∀ node ∈ fresh known (frontier.flatMap next), node ∉ known :=
        fun node member => (mem_fresh.mp member).2
      have fewer := undone_lt within new (sources node some) isFrontier
      refine ih (List.subset_append_right _ _) ?_ (Nat.le_of_lt_succ (Nat.lt_of_lt_of_le fewer enough))
      intro other member old
      exact advanced other ((List.mem_append.mp member).resolve_right old)

/-- The nodes that spreading finds are those that can be reached. -/
theorem mem_reachable_iff {nodes : List α} (sources : ∀ node, next node ≠ [] → node ∈ nodes)
    {rounds : Nat} (enough : nodes.length ≤ rounds) {seeds : List α} {node : α} :
    node ∈ reachable next rounds seeds ↔
      ∃ seed ∈ seeds, Relation.ReflTransGen (Leads next) seed node := by
  constructor
  · refine reached_of_mem_spread (fun node member => ?_) (fun _ member => member) node
    exact ⟨node, (mem_fresh.mp member).1, .refl⟩
  · rintro ⟨seed, isSeed, way⟩
    have first : seed ∈ reachable next rounds seeds :=
      known_subset_spread _ _ _ (mem_fresh.mpr ⟨isSeed, List.not_mem_nil⟩)
    have few : (undone nodes (fresh [] seeds) (fresh [] seeds)).length ≤ rounds :=
      Nat.le_trans (List.length_filter_le _ _) enough
    have closed := spread_closed sources (fun _ member => member)
      (fun node member absent => (absent member).elim) few
    induction way with
    | refl => exact first
    | tail _ edge ih => exact closed _ ih edge

end Fluent.Graph
