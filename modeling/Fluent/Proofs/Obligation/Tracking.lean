import Fluent.Obligation.Resolve

/-! Obligations with the numbers of the moves that opened them.

An obligation changes its type and message while it is under way, and it may look like
another one. To speak about one obligation along a chain, each is numbered when it is
opened: the root by zero, and what a move opens by the number of the move. -/

set_option autoImplicit false

namespace Fluent

/-- A stack whose obligations are numbered. -/
structure Tracked where
  closed : List (Nat × Obligation)
  below : List (Nat × Pending)
  top : Nat × Pending

namespace Tracked

def start (root : Pending) : Tracked :=
  { closed := [], below := [], top := (0, root) }

/-- The stack without the numbers. -/
def stack (tracked : Tracked) : Stack :=
  { closed := tracked.closed.map Prod.snd
    below := tracked.below.map Prod.snd
    top := tracked.top.2 }

/-- The open obligations from the bottom to the top. -/
def pending (tracked : Tracked) : List (Nat × Pending) :=
  tracked.below.reverse ++ [tracked.top]

def mark (tracked : Tracked) (terminal : Bool) : Tracked :=
  { tracked with
    top := (tracked.top.1, { tracked.top.2 with reached := tracked.top.2.reached || terminal }) }

/-- Take a step of the stack; what it opens gets the number of the move. -/
def advance (tracked : Tracked) (number : Nat) (move : Move) : Tracked :=
  if move.type = tracked.top.2.type then tracked
  else
    match Stack.splitAtFirst (fun pending => pending.2.type = move.type) tracked.below with
    | some (above, found, rest) =>
      let lost := (tracked.top :: above).reverse.map fun pending =>
        (pending.1, pending.2.close .escape move.node)
      { closed := tracked.closed ++ lost, below := rest, top := found }
    | none =>
      if tracked.top.2.facts.isStage then
        { tracked with
          top := (tracked.top.1,
            { tracked.top.2 with
              type := move.type
              facts := move.facts
              message :=
                if tracked.top.2.message.isEmpty then move.message else tracked.top.2.message }) }
      else if tracked.top.2.reached then
        { tracked with
          closed := tracked.closed ++ [(tracked.top.1, tracked.top.2.resolve .discharged)]
          top := (number, move.open) }
      else
        { tracked with
          below := tracked.top :: tracked.below
          top := (number, move.open) }

def step (tracked : Tracked) (move : Move × Nat) : Tracked :=
  (tracked.mark move.1.terminal).advance move.2 move.1

/-- The numbers of all obligations, resolved or open. -/
def numbers (tracked : Tracked) : List Nat :=
  tracked.closed.map Prod.fst ++ tracked.pending.map Prod.fst

def bottom (tracked : Tracked) : Nat × Pending :=
  (tracked.top :: tracked.below).getLast (List.cons_ne_nil _ _)

end Tracked

namespace Stack

theorem splitAtFirst_map {α β : Type} (f : α → β) (fits : β → Bool) (elements : List α) :
    splitAtFirst fits (elements.map f) =
      (splitAtFirst (fun element => fits (f element)) elements).map
        fun (before, found, after) => (before.map f, f found, after.map f) := by
  induction elements with
  | nil => rfl
  | cons element elements ih =>
    simp only [splitAtFirst, List.map_cons]
    split
    · rfl
    · rw [ih]
      cases splitAtFirst (fun element => fits (f element)) elements <;> rfl

theorem splitAtFirst_some {α : Type} {fits : α → Bool} {elements before after : List α} {found : α}
    (split : splitAtFirst fits elements = some (before, found, after)) :
    elements = before ++ found :: after ∧ fits found = true ∧ ∀ other ∈ before, fits other = false := by
  induction elements generalizing before with
  | nil => cases split
  | cons element elements ih =>
    simp only [splitAtFirst] at split
    by_cases fit : fits element = true
    · rw [if_pos fit] at split
      cases split
      exact ⟨rfl, fit, fun _ member => nomatch member⟩
    · rw [if_neg fit] at split
      obtain ⟨⟨front, middle, back⟩, inner, same⟩ := Option.map_eq_some_iff.mp split
      cases same
      obtain ⟨rfl, fitting, others⟩ := ih inner
      refine ⟨rfl, fitting, ?_⟩
      exact List.forall_mem_cons.mpr ⟨by simpa using fit, others⟩

theorem splitAtFirst_none {α : Type} {fits : α → Bool} {elements : List α}
    (split : splitAtFirst fits elements = none) : ∀ other ∈ elements, fits other = false := by
  induction elements with
  | nil => exact fun _ member => nomatch member
  | cons element elements ih =>
    simp only [splitAtFirst] at split
    by_cases fit : fits element = true
    · rw [if_pos fit] at split
      cases split
    · rw [if_neg fit] at split
      exact List.forall_mem_cons.mpr ⟨by simpa using fit, ih (Option.map_eq_none_iff.mp split)⟩

end Stack

namespace Tracked

theorem stack_mark (tracked : Tracked) (terminal : Bool) :
    (tracked.mark terminal).stack = tracked.stack.mark terminal := rfl

theorem stack_advance (tracked : Tracked) (number : Nat) (move : Move) :
    (tracked.advance number move).stack = tracked.stack.advance move := by
  unfold advance Stack.advance
  simp only [stack, Stack.splitAtFirst_map]
  split
  · rfl
  · cases split : Stack.splitAtFirst (fun pending => decide (pending.2.type = move.type)) tracked.below with
    | some found =>
      obtain ⟨above, found, rest⟩ := found
      simp [Function.comp_def]
    | none =>
      by_cases stage : tracked.top.2.facts.isStage = true
      · simp [stage]
      · by_cases reached : tracked.top.2.reached = true <;> simp [stage, reached]

theorem stack_step (tracked : Tracked) (move : Move × Nat) :
    (tracked.step move).stack = tracked.stack.step move.1 := by
  rw [step, stack_advance, stack_mark]
  rfl

theorem pending_stack (tracked : Tracked) : tracked.stack.pending = tracked.pending.map Prod.snd := by
  simp [Stack.pending, pending, stack]

/-- What a step can do to a numbered stack. -/
inductive Steps (tracked : Tracked) (move : Move) (number : Nat) : Tracked → Prop where
  /-- The builder stays the same. -/
  | stay : move.type = tracked.top.2.type → Steps tracked move number (tracked.mark move.terminal)
  /-- The walk comes back to a lower obligation, and those above it are closed. -/
  | back (above : List (Nat × Pending)) (found : Nat × Pending) (rest : List (Nat × Pending)) :
      move.type ≠ tracked.top.2.type → tracked.below = above ++ found :: rest →
      found.2.type = move.type → (∀ pending ∈ above, pending.2.type ≠ move.type) →
      Steps tracked move number
        { closed := tracked.closed ++
            ((tracked.mark move.terminal).top :: above).reverse.map fun pending =>
              (pending.1, pending.2.close .escape move.node)
          below := rest
          top := found }
  /-- The obligation of a sequence moves on. -/
  | moveOn : move.type ≠ tracked.top.2.type → (∀ pending ∈ tracked.below, pending.2.type ≠ move.type) →
      tracked.top.2.facts.isStage = true →
      Steps tracked move number
        { tracked with
          top := (tracked.top.1,
            { (tracked.mark move.terminal).top.2 with
              type := move.type
              facts := move.facts
              message :=
                if tracked.top.2.message.isEmpty then move.message else tracked.top.2.message }) }
  /-- A completed obligation makes room for a new one. -/
  | replace : move.type ≠ tracked.top.2.type → (∀ pending ∈ tracked.below, pending.2.type ≠ move.type) →
      tracked.top.2.facts.isStage = false → (tracked.top.2.reached || move.terminal) = true →
      Steps tracked move number
        { tracked with
          closed := tracked.closed ++ [(tracked.top.1, tracked.top.2.resolve .discharged)]
          top := (number, move.open) }
  /-- A new obligation is opened above the others. -/
  | push : move.type ≠ tracked.top.2.type → (∀ pending ∈ tracked.below, pending.2.type ≠ move.type) →
      tracked.top.2.facts.isStage = false → (tracked.top.2.reached || move.terminal) = false →
      Steps tracked move number
        { tracked with
          below := (tracked.mark move.terminal).top :: tracked.below
          top := (number, move.open) }

theorem steps (tracked : Tracked) (move : Move) (number : Nat) :
    Steps tracked move number (tracked.step (move, number)) := by
  unfold step advance
  split
  next same => exact .stay same
  next other =>
    split
    next above found rest split =>
      obtain ⟨below, fits, before⟩ := Stack.splitAtFirst_some split
      refine .back above found rest other below (by simpa using fits) ?_
      intro pending member
      simpa using before pending member
    next split =>
      have none : ∀ pending ∈ tracked.below, pending.2.type ≠ move.type := by
        intro pending member
        simpa using Stack.splitAtFirst_none split pending member
      split
      next stage => exact .moveOn other none stage
      next notStage =>
        have noStage : tracked.top.2.facts.isStage = false := (Bool.not_eq_true _).mp notStage
        split
        next reached => exact .replace other none noStage reached
        next unreached => exact .push other none noStage ((Bool.not_eq_true _).mp unreached)

def run (tracked : Tracked) (moves : List (Move × Nat)) : Tracked := moves.foldl step tracked

theorem stack_run (tracked : Tracked) (moves : List (Move × Nat)) :
    (tracked.run moves).stack = (moves.map Prod.fst).foldl Stack.step tracked.stack := by
  induction moves generalizing tracked with
  | nil => rfl
  | cons move moves ih =>
    rw [List.map_cons, List.foldl_cons, ← stack_step]
    exact ih (tracked.step move)

theorem run_induction (holds : Nat → Tracked → Prop) (moves : List Move)
    (kept : ∀ number tracked, ∀ move ∈ moves, holds number tracked →
      holds (number + 1) (tracked.step (move, number)))
    {number : Nat} {tracked : Tracked} (first : holds number tracked) :
    holds (number + moves.length) (tracked.run (moves.zipIdx number)) := by
  induction moves generalizing number tracked with
  | nil => exact first
  | cons move moves ih =>
    have second := kept number tracked move List.mem_cons_self first
    have rest := ih (fun number tracked move member =>
      kept number tracked move (List.mem_cons_of_mem _ member)) second
    rw [Nat.add_right_comm] at rest
    exact rest

theorem Steps.numbers {tracked next : Tracked} {move : Move} {number : Nat}
    (took : Steps tracked move number next) :
    next.numbers.Perm tracked.numbers ∨ next.numbers.Perm (number :: tracked.numbers) := by
  cases took with
  | stay same => exact Or.inl (by simp [Tracked.numbers, pending, mark])
  | back above found rest other below fits before =>
    have lost : (above.map fun pending => (pending.1, pending.2.close .escape move.node)).map Prod.fst =
        above.map Prod.fst := by simp
    -- What is closed in reverse order has been open before; counting settles the order.
    refine Or.inl (List.perm_iff_count.mpr fun k => ?_)
    simp only [Tracked.numbers, pending, mark, below, List.map_append, List.map_reverse, List.map_cons,
      List.map_nil, List.reverse_cons, List.reverse_append, lost, List.count_append, List.count_cons,
      List.count_reverse, List.count_nil]
    omega
  | moveOn other none stage => exact Or.inl (by simp [Tracked.numbers, pending])
  | replace other none stage reached =>
    refine Or.inr (List.perm_iff_count.mpr fun k => ?_)
    simp [Tracked.numbers, pending, List.count_cons]
    omega
  | push other none stage unreached =>
    refine Or.inr (List.perm_iff_count.mpr fun k => ?_)
    simp [Tracked.numbers, pending, mark, List.count_cons]
    omega

theorem numbers_nodup (root : Pending) (moves : List Move) :
    ((start root).run (moves.zipIdx 1)).numbers.Nodup := by
  -- Numbers are given out in the order of the moves, so a new one is above all others.
  have both : ((start root).run (moves.zipIdx 1)).numbers.Nodup ∧
      ∀ number ∈ ((start root).run (moves.zipIdx 1)).numbers, number < 1 + moves.length := by
    apply run_induction (fun next tracked =>
      tracked.numbers.Nodup ∧ ∀ number ∈ tracked.numbers, number < next) moves
    · intro next tracked move _ ⟨nodup, bounded⟩
      rcases (tracked.steps move next).numbers with same | more
      · exact ⟨same.nodup_iff.mpr nodup,
          fun number member => Nat.lt_succ_of_lt (bounded number (same.mem_iff.mp member))⟩
      · refine ⟨more.nodup_iff.mpr (List.nodup_cons.mpr ⟨?_, nodup⟩), fun number member => ?_⟩
        · intro member
          exact Nat.lt_irrefl next (bounded next member)
        · rcases List.mem_cons.mp (more.mem_iff.mp member) with rfl | member
          · exact Nat.lt_succ_self _
          · exact Nat.lt_succ_of_lt (bounded number member)
    · simp [start, numbers, pending]
  exact both.1

theorem forall_mem_pending {tracked : Tracked} {holds : Nat × Pending → Prop} :
    (∀ pending ∈ tracked.pending, holds pending) ↔
      holds tracked.top ∧ ∀ pending ∈ tracked.below, holds pending := by
  simp only [pending, List.forall_mem_append, List.mem_reverse, List.mem_singleton, forall_eq, and_comm]

theorem bottom_mem_pending (tracked : Tracked) : tracked.bottom ∈ tracked.pending := by
  have last : tracked.bottom ∈ tracked.top :: tracked.below := List.getLast_mem _
  simpa [pending, or_comm] using last

theorem Steps.closed {tracked next : Tracked} {move : Move} {number : Nat}
    (took : Steps tracked move number next) {closed : Nat × Obligation}
    (member : closed ∈ tracked.closed) : closed ∈ next.closed := by
  cases took with
  | stay same => exact member
  | back above found rest other below fits before => exact List.mem_append_left _ member
  | moveOn other none stage => exact member
  | replace other none stage reached => exact List.mem_append_left _ member
  | push other none stage unreached => exact member

/-- Marking changes the lowest obligation only in that a terminal method has been called. -/
theorem bottom_mark (tracked : Tracked) (terminal : Bool) :
    (tracked.mark terminal).bottom.1 = tracked.bottom.1 ∧
      (tracked.mark terminal).bottom.2.start = tracked.bottom.2.start ∧
      (tracked.mark terminal).bottom.2.stop = tracked.bottom.2.stop := by
  obtain ⟨closed, below, top⟩ := tracked
  cases below with
  | nil => exact ⟨rfl, rfl, rfl⟩
  | cons next below => simp [mark, bottom]

/-- The lowest obligation stays where it is, unless it has been completed. -/
theorem Steps.bottom {tracked next : Tracked} {move : Move} {number : Nat}
    (took : Steps tracked move number next) :
    (next.bottom.1 = tracked.bottom.1 ∧ next.bottom.2.start = tracked.bottom.2.start ∧
      next.bottom.2.stop = tracked.bottom.2.stop) ∨
    ((tracked.top.2.reached || move.terminal) = true ∧
      (tracked.bottom.1, tracked.bottom.2.resolve .discharged) ∈ next.closed) := by
  cases took with
  | stay same => exact Or.inl (tracked.bottom_mark move.terminal)
  | back above found rest other below fits before =>
    -- Only obligations above the one that is found are closed.
    have same : (tracked.top :: tracked.below).getLast (List.cons_ne_nil _ _) =
        (found :: rest).getLast (List.cons_ne_nil _ _) := by
      simp only [below]
      rw [List.getLast_cons (by simp), List.getLast_append_of_ne_nil]
    refine Or.inl ?_
    rw [Tracked.bottom, Tracked.bottom, same]
    exact ⟨rfl, rfl, rfl⟩
  | moveOn other none stage =>
    refine Or.inl ?_
    obtain ⟨closed, below, top⟩ := tracked
    cases below <;> simp [Tracked.bottom, mark]
  | replace other none stage reached =>
    obtain ⟨closed, below, top⟩ := tracked
    cases below with
    -- The lowest obligation is replaced only if it is the only one.
    | nil =>
      refine Or.inr ⟨reached, ?_⟩
      simp [Tracked.bottom]
    | cons next below =>
      refine Or.inl ?_
      simp [Tracked.bottom]
  | push other none stage unreached =>
    refine Or.inl ?_
    obtain ⟨closed, below, top⟩ := tracked
    cases below <;> simp [Tracked.bottom, mark]

/-- The root's obligation is the lowest one, until it is completed. -/
theorem root_kept (root : Pending) (moves : List Move) :
    let tracked := (start root).run (moves.zipIdx 1)
    (tracked.bottom.1 = 0 ∧ tracked.bottom.2.start = root.start ∧ tracked.bottom.2.stop = root.stop) ∨
      ∃ obligation, (0, obligation) ∈ tracked.closed ∧ obligation.outcome = .discharged ∧
        obligation.start = root.start ∧ obligation.stop = root.stop := by
  apply run_induction (fun _ tracked =>
    (tracked.bottom.1 = 0 ∧ tracked.bottom.2.start = root.start ∧ tracked.bottom.2.stop = root.stop) ∨
      ∃ obligation, (0, obligation) ∈ tracked.closed ∧ obligation.outcome = .discharged ∧
        obligation.start = root.start ∧ obligation.stop = root.stop) moves
  · intro number tracked move _ invariant
    rcases invariant with ⟨zero, start, stop⟩ | ⟨obligation, member, discharged⟩
    · rcases (tracked.steps move number).bottom with ⟨same, sameStart, sameStop⟩ | ⟨_, closed⟩
      · rw [same, sameStart, sameStop]
        exact Or.inl ⟨zero, start, stop⟩
      · rw [zero] at closed
        exact Or.inr ⟨_, closed, rfl, start, stop⟩
    · exact Or.inr ⟨obligation, (tracked.steps move number).closed member, discharged⟩
  · exact Or.inl ⟨rfl, rfl, rfl⟩

theorem Steps.unreached {tracked next : Tracked} {move : Move} {number : Nat}
    (took : Steps tracked move number next) (quiet : move.terminal = false)
    (uncompleted : ∀ pending ∈ tracked.pending, pending.2.reached = false) :
    ∀ pending ∈ next.pending, pending.2.reached = false := by
  rw [forall_mem_pending] at uncompleted ⊢
  obtain ⟨top, lower⟩ := uncompleted
  cases took with
  | stay same => exact ⟨by simp [mark, top, quiet], lower⟩
  | back above found rest other below fits before =>
    rw [below] at lower
    exact ⟨lower found (by simp), fun pending member => lower pending (by simp [member])⟩
  | moveOn other none stage => exact ⟨by simp [mark, top, quiet], lower⟩
  | replace other none stage reached => simp [top, quiet] at reached
  | push other none stage unreached =>
    exact ⟨rfl, List.forall_mem_cons.mpr ⟨by simp [mark, top, quiet], lower⟩⟩

/-- Without a terminal method no obligation is completed, and the root's is the lowest one. -/
theorem root_unreached (root : Pending) (fresh : root.reached = false) (moves : List Move)
    (unmarked : ∀ move ∈ moves, move.terminal = false) :
    let tracked := (start root).run (moves.zipIdx 1)
    (∀ pending ∈ tracked.pending, pending.2.reached = false) ∧
      tracked.bottom.1 = 0 ∧ tracked.bottom.2.start = root.start ∧ tracked.bottom.2.stop = root.stop := by
  apply run_induction (fun _ tracked =>
    (∀ pending ∈ tracked.pending, pending.2.reached = false) ∧
      tracked.bottom.1 = 0 ∧ tracked.bottom.2.start = root.start ∧
        tracked.bottom.2.stop = root.stop) moves
  · intro number tracked move member ⟨uncompleted, zero, start, stop⟩
    have quiet := unmarked move member
    have topOpen : tracked.top.2.reached = false := uncompleted _ (by simp [pending])
    refine ⟨(tracked.steps move number).unreached quiet uncompleted, ?_⟩
    · rcases (tracked.steps move number).bottom with ⟨same, sameStart, sameStop⟩ | ⟨reached, _⟩
      · rw [same, sameStart, sameStop]
        exact ⟨zero, start, stop⟩
      · simp [topOpen, quiet] at reached
  · simp [start, pending, bottom, fresh]

end Tracked

end Fluent
