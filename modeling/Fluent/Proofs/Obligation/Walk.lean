import Fluent.Proofs.Chain.Answers
import Fluent.Proofs.Obligation.Tracking

/-! The walk along a chain against fixed answers, and what becomes of the root's obligation.

The walk goes on as long as the steps yield builders. At its end the obligations that are
still open are settled one by one. The obligation of the root is discharged if the last
method is terminal, and violated if no method is and the value is dropped. -/

set_option autoImplicit false

namespace Fluent

open Inquiry (View)

/-- Where no two elements have the same key, there is one with the key of a given one. -/
theorem filter_eq_singleton {α β : Type} [DecidableEq β] {key : α → β} {elements : List α} {element : α}
    (distinct : (elements.map key).Nodup) (member : element ∈ elements) :
    elements.filter (fun other => key other = key element) = [element] := by
  induction elements with
  | nil => cases member
  | cons first elements ih =>
    obtain ⟨absent, distinct⟩ := List.nodup_cons.mp distinct
    rcases List.mem_cons.mp member with rfl | member
    · have none : elements.filter (fun other => key other = key element) = [] := by
        refine List.filter_eq_nil_iff.mpr fun other isOther same => ?_
        exact absent (List.mem_map.mpr ⟨other, isOther, by simpa using same⟩)
      rw [List.filter_cons_of_pos (by simp), none]
    · have differs : ¬ key first = key element := fun same =>
        absent (List.mem_map.mpr ⟨element, member, same.symm⟩)
      rw [List.filter_cons_of_neg (by simpa using differs)]
      exact ih distinct member

namespace Course

variable (course : Course) (context : Context) (accepts : Bool)

def numbered : Tracked := (Tracked.start course.root).run (course.moves.zipIdx 1)

/-- The numbered stack when the walk is over. -/
def last : Tracked :=
  match course.ending with
  | .consumed terminal _ => course.numbered.mark terminal
  | .finished => course.numbered

/-- How an obligation is resolved that is open when the walk is over. -/
def settle (pending : Pending) : Obligation :=
  match course.ending with
  | .consumed _ node =>
    if course.terminated then pending.resolve .discharged else pending.close .escape node
  | .finished =>
    if course.asksContext pending && !accepts
    then pending.resolve (.violated context.usage (some context.node))
    else pending.resolve .discharged

/-- The resolved obligations with their numbers. -/
def tracked : List (Nat × Obligation) :=
  course.last.closed ++ course.last.pending.map fun pending =>
    (pending.1, course.settle context accepts pending.2)

theorem stack_numbered : course.numbered.stack = course.stack := by
  rw [numbered, Tracked.stack_run, List.zipIdx_map_fst]
  rfl

theorem tracked_snd : (course.tracked context accepts).map Prod.snd = course.resolve context accepts := by
  have closed : course.numbered.closed.map Prod.snd = course.stack.closed := by
    rw [← course.stack_numbered]
    rfl
  have pending : course.numbered.pending.map Prod.snd = course.stack.pending := by
    rw [← course.stack_numbered, Tracked.pending_stack]
  have marked (terminal : Bool) : (course.numbered.mark terminal).pending.map Prod.snd =
      (course.stack.mark terminal).pending := by
    rw [← Tracked.pending_stack, Tracked.stack_mark, stack_numbered]
  unfold tracked resolve last
  cases ending : course.ending with
  | consumed terminal node =>
    simp only [List.map_append, List.map_map, Function.comp_def, settle, ending]
    rw [← marked, List.map_map]
    exact congrArg (· ++ _) closed
  | finished =>
    simp only [List.map_append, List.map_map, Function.comp_def, settle, ending]
    rw [← pending, List.map_map, ← closed]
    rfl

theorem numbers_last : course.last.numbers.Nodup := by
  have nodup := Tracked.numbers_nodup course.root course.moves
  unfold last
  split
  · simpa [Tracked.numbers, Tracked.mark, Tracked.pending, numbered] using nodup
  · exact nodup

theorem fst_tracked : (course.tracked context accepts).map Prod.fst = course.last.numbers := by
  simp [tracked, Tracked.numbers, Function.comp_def]

theorem number_unique {number : Nat} {obligation : Obligation}
    (member : (number, obligation) ∈ course.tracked context accepts) :
    (course.tracked context accepts).filter (fun entry => entry.1 = number) = [(number, obligation)] := by
  have nodup : ((course.tracked context accepts).map Prod.fst).Nodup := by
    rw [fst_tracked]
    exact course.numbers_last
  exact filter_eq_singleton nodup member

/-- The root's obligation is still the lowest one when the walk is over, or it is completed. -/
theorem root_last :
    (course.last.bottom.1 = 0 ∧ course.last.bottom.2.start = course.root.start ∧
      course.last.bottom.2.stop = course.root.stop) ∨
      ∃ obligation, (0, obligation) ∈ course.last.closed ∧ obligation.outcome = .discharged ∧
        obligation.start = course.root.start ∧ obligation.stop = course.root.stop := by
  have kept := Tracked.root_kept course.root course.moves
  unfold last
  split
  next terminal node ending =>
    obtain ⟨number, start, stop⟩ := course.numbered.bottom_mark terminal
    rw [number, start, stop]
    exact kept
  next => exact kept

theorem bottom_mem_tracked : (course.last.bottom.1, course.settle context accepts course.last.bottom.2) ∈
    course.tracked context accepts :=
  List.mem_append_right _ (List.mem_map.mpr ⟨_, course.last.bottom_mem_pending, rfl⟩)

/-- A course that ends with a terminal method discharges the root's obligation. -/
theorem root_discharged (terminated : course.terminated = true) :
    ∃ obligation, (course.tracked context accepts).filter (fun entry => entry.1 = 0) =
        [(0, obligation)] ∧
      obligation.outcome = .discharged ∧ obligation.start = course.root.start ∧
      obligation.stop = course.root.stop := by
  have settled (pending : Pending) :
      course.settle context accepts pending = pending.resolve .discharged := by
    unfold settle asksContext
    split <;> simp [terminated]
  rcases course.root_last with ⟨zero, start, stop⟩ | ⟨obligation, member, discharged, span⟩
  · have member := course.bottom_mem_tracked context accepts
    rw [zero, settled] at member
    exact ⟨_, course.number_unique context accepts member, rfl, start, stop⟩
  · have member : (0, obligation) ∈ course.tracked context accepts := List.mem_append_left _ member
    exact ⟨obligation, course.number_unique context accepts member, discharged, span⟩

/-- Is no method along a course terminal? -/
def quiet : Prop :=
  course.terminated = false ∧ (∀ move ∈ course.moves, move.terminal = false) ∧
    ∀ terminal node, course.ending = .consumed terminal node → terminal = false

/-- Where no method is terminal and the context does not take over the value, the root's obligation
is violated. -/
theorem root_violated (fresh : course.root.reached = false) (quiet : course.quiet) :
    ∃ obligation ∈ course.resolve context false, ∃ usage node,
      obligation.outcome = .violated usage (some node) ∧
      obligation.start = course.root.start ∧ obligation.stop = course.root.stop := by
  obtain ⟨terminated, moves, consumed⟩ := quiet
  obtain ⟨unreached, _, start, stop⟩ := Tracked.root_unreached course.root fresh course.moves moves
  -- The step that consumes the value marks nothing, since it is not terminal either.
  have bottom : course.last.bottom = course.numbered.bottom := by
    unfold last
    split
    next terminal node ending =>
      simp [Tracked.mark, consumed terminal node ending]
    next => rfl
  have lost := unreached _ (Tracked.bottom_mem_pending _)
  have member : course.settle context false course.last.bottom.2 ∈ course.resolve context false := by
    rw [← tracked_snd]
    exact List.mem_map.mpr ⟨_, course.bottom_mem_tracked context false, rfl⟩
  rw [bottom] at member
  refine ⟨_, member, ?_⟩
  unfold settle
  cases ending : course.ending with
  | consumed terminal node =>
    exact ⟨.escape, node, by simp [terminated, Pending.close, Pending.resolve, lost, numbered],
      by simp [terminated, Pending.close, Pending.resolve, numbered, start],
      by simp [terminated, Pending.close, Pending.resolve, numbered, stop]⟩
  | finished =>
    exact ⟨context.usage, context.node,
      by simp [asksContext, terminated, Pending.resolve, lost, numbered],
      by simp [asksContext, terminated, Pending.resolve, lost, numbered, start],
      by simp [asksContext, terminated, Pending.resolve, lost, numbered, stop]⟩

theorem tracked_ne_nil : course.tracked context accepts ≠ [] :=
  List.ne_nil_of_mem (course.bottom_mem_tracked context accepts)

end Course

namespace Chain

variable (view : View) (markers : Markers)

def move? (step : Step) : Option Move :=
  match step.result.bind markers.decls.base?,
      (Inquiry.factsOf markers.decls step.result).runWith view with
  | some type, some facts =>
    some
      { start := step.start
        stop := step.stop
        node := step.expr
        terminal := view.isTerminal step.method
        message := (step.method.map fun func => (markers.of func).message).getD []
        type
        facts }
  | _, _ => none

theorem terminal_move? {step : Step} {move : Move} (moves : move? view markers step = some move) :
    move.terminal = view.isTerminal step.method := by
  unfold move? at moves
  split at moves
  · cases moves
    rfl
  · cases moves

theorem base?_of_isBuilder {type : Option Ty} (builder : view.isBuilder markers.decls type = true) :
    ∃ id facts, type.bind markers.decls.base? = some id ∧
      (Inquiry.factsOf markers.decls type).runWith view = some facts := by
  cases base : type.bind markers.decls.base? with
  | none =>
    rw [view.isBuilder_of_base_eq_none markers.decls base] at builder
    cases builder
  | some id =>
    rw [view.isBuilder_eq] at builder
    obtain ⟨facts, known⟩ := Option.isSome_iff_exists.mp builder
    exact ⟨id, facts, rfl, known⟩

theorem isSome_move? {step : Step} (builder : view.isBuilder markers.decls step.result = true) :
    (move? view markers step).isSome = true := by
  obtain ⟨id, facts, base, known⟩ := base?_of_isBuilder view markers builder
  simp [move?, base, known]

theorem runWith_moves_cons (step : Step) (steps : List Step) :
    (moves markers (step :: steps)).runWith view =
      match move? view markers step with
      | some move =>
        (move :: ((moves markers steps).runWith view).1, ((moves markers steps).runWith view).2)
      | none => ([], .consumed (view.isTerminal step.method) step.expr) := by
  simp only [moves, move?, Inquiry.runWith_bind, Inquiry.runWith_isTerminal]
  generalize (Inquiry.factsOf markers.decls step.result).runWith view = facts
  generalize step.result.bind markers.decls.base? = base
  cases base <;> cases facts <;> simp

/-- A walk past builders ends at the last step or behind it. -/
theorem moves_reach_end (steps : List Step)
    (builders : ∀ step ∈ steps.dropLast, view.isBuilder markers.decls step.result = true) :
    let walk := (moves markers steps).runWith view
    (walk.2 = .finished ∧ walk.1.length = steps.length) ∨
      (∃ terminal node, walk.2 = .consumed terminal node) ∧ walk.1.length + 1 = steps.length := by
  induction steps with
  | nil => exact Or.inl ⟨rfl, rfl⟩
  | cons step steps ih =>
    simp only [runWith_moves_cons]
    -- Nothing is known about the result of the last step.
    cases steps with
    | nil =>
      cases move? view markers step with
      | some move => exact Or.inl ⟨rfl, rfl⟩
      | none => exact Or.inr ⟨⟨_, _, rfl⟩, rfl⟩
    | cons second steps =>
      rw [List.dropLast_cons_of_ne_nil (List.cons_ne_nil _ _), List.forall_mem_cons] at builders
      obtain ⟨move, moved⟩ := Option.isSome_iff_exists.mp (isSome_move? view markers builders.1)
      simp only [moved]
      rcases ih builders.2 with ⟨finished, count⟩ | ⟨consumed, count⟩
      · exact Or.inl ⟨finished, congrArg Nat.succ count⟩
      · exact Or.inr ⟨consumed, congrArg Nat.succ count⟩

/-- Where no method is terminal, no move is marked, nor is the end of the walk. -/
theorem moves_unmarked (steps : List Step)
    (unmarked : ∀ step ∈ steps, view.isTerminal step.method = false) :
    let walk := (moves markers steps).runWith view
    (∀ move ∈ walk.1, move.terminal = false) ∧
      ∀ terminal node, walk.2 = .consumed terminal node → terminal = false := by
  induction steps with
  | nil => simp [moves]
  | cons step steps ih =>
    obtain ⟨first, rest⟩ := List.forall_mem_cons.mp unmarked
    simp only [runWith_moves_cons]
    cases moved : move? view markers step with
    | some move =>
      obtain ⟨quiet, ending⟩ := ih rest
      refine ⟨List.forall_mem_cons.mpr ⟨?_, quiet⟩, ending⟩
      rw [terminal_move? view markers moved, first]
    | none =>
      refine ⟨by simp, ?_⟩
      intro terminal node ending
      cases ending
      exact first

variable (chain : Chain)

/-- The course of a chain starts at its root and goes along its steps. -/
theorem runWith_course? (builder : view.isBuilder markers.decls chain.root.type = true) :
    ∃ course, (chain.course? markers).runWith view = some course ∧
      course.root.start = chain.root.expr.start ∧ course.root.stop = chain.root.expr.stop ∧
      course.root.reached = false ∧
      (course.moves, course.ending) = (moves markers chain.steps).runWith view ∧
      course.terminated = view.isTerminal (chain.steps.getLast?.bind Step.method) := by
  obtain ⟨id, facts, base, known⟩ := base?_of_isBuilder view markers builder
  simp only [course?, base, known, Inquiry.runWith_bind, Inquiry.runWith_pure,
    Inquiry.runWith_isTerminal]
  exact ⟨_, rfl, rfl, rfl, rfl, rfl, rfl⟩

def accepted (course : Course) : Bool :=
  course.remaining.any course.asksContext && (chain.context.accepts markers.decls).runWith view

/-- A lost builder is not held against a chain that is exempt from checks. -/
def excuse (obligation : Obligation) : Obligation :=
  if chain.suppressed then suppress chain.context obligation else obligation

/-- The obligations of a chain with their numbers. -/
def tracked : List (Nat × Obligation) :=
  match (chain.course? markers).runWith view with
  | none => []
  | some course =>
    (course.tracked chain.context (chain.accepted view markers course)).map fun entry =>
      (entry.1, chain.excuse entry.2)

theorem tracked_snd :
    (chain.tracked view markers).map Prod.snd = (chain.obligations markers).runWith view := by
  simp only [obligations, tracked, Inquiry.runWith_bind]
  cases (chain.course? markers).runWith view with
  | none => rfl
  | some course =>
    have excused : (course.tracked chain.context (chain.accepted view markers course)).map
        (fun entry => chain.excuse entry.2) =
          (course.resolve chain.context (chain.accepted view markers course)).map chain.excuse := by
      rw [← course.tracked_snd, List.map_map]
      rfl
    simp only [List.map_map]
    refine excused.trans ?_
    unfold excuse accepted
    cases course.remaining.any course.asksContext <;> cases chain.suppressed <;> simp

end Chain

end Fluent
