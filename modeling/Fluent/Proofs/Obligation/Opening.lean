import Fluent.Proofs.Obligation.Completion

/-! Where an obligation comes from.

An obligation is opened by the root or by a step, whose number it has. It stays at the place where
it has been opened, whatever becomes of it afterwards: a step leaves it as it is, up to the note
on terminal methods, or moves it on from a stage. -/

set_option autoImplicit false

namespace Fluent

open Inquiry (View)

namespace Tracked

variable {tracked next : Tracked} {move : Move} {number : Nat}

theorem of_mem_pending_mark {terminal : Bool} {entry : Nat × Pending}
    (member : entry ∈ (tracked.mark terminal).pending) :
    ∃ pending reached, (entry.1, pending) ∈ tracked.pending ∧ entry.2 = { pending with reached } := by
  rcases List.mem_append.mp member with below | top
  · exact ⟨entry.2, entry.2.reached, List.mem_append_left _ below, rfl⟩
  · rw [List.mem_singleton.mp top]
    exact ⟨tracked.top.2, _, tracked.top_mem_pending, rfl⟩

/-- A pending obligation that a move takes to the next stage. -/
def movedOn (pending : Pending) (move : Move) (reached : Bool) : Pending :=
  { pending with
    type := move.type
    facts := move.facts
    message := if pending.message.isEmpty then move.message else pending.message
    reached }

/-- An entry that a step takes over from the stack: it is the same, up to the note on terminal methods, or
it is the top and has been moved on from a stage. -/
def CarriedOver (tracked : Tracked) (move : Move) (entry : Nat × Pending) : Prop :=
  ∃ pending reached, (entry.1, pending) ∈ tracked.pending ∧
    (entry.2 = { pending with reached } ∨
      (entry.1, pending) = tracked.top ∧ pending.facts.isStage = true ∧ pending.type ≠ move.type ∧
        entry.2 = movedOn pending move reached)

/-- What is open after a step is opened by it, or has been open before it. -/
theorem Steps.carries (took : Steps tracked move number next) {entry : Nat × Pending}
    (member : entry ∈ next.pending) : entry = (number, move.open) ∨ tracked.CarriedOver move entry := by
  have lower {other : Nat × Pending} (inside : other ∈ tracked.below) : tracked.CarriedOver move other :=
    ⟨other.2, other.2.reached, mem_pending_of_mem_below inside, Or.inl rfl⟩
  rcases List.mem_append.mp member with below | top
  · rw [List.mem_reverse] at below
    refine Or.inr ?_
    cases took with
    | stay same => exact lower below
    | back above found rest differs split fits before => exact lower (by rw [split]; simp [below])
    | moveOn differs none stage => exact lower below
    | replace differs none stage reached => exact lower below
    | push differs none stage unreached =>
      rcases List.mem_cons.mp below with rfl | below
      · exact ⟨tracked.top.2, _, tracked.top_mem_pending, Or.inl rfl⟩
      · exact lower below
  · rw [List.mem_singleton.mp top]
    cases took with
    | stay same => exact Or.inr ⟨tracked.top.2, _, tracked.top_mem_pending, Or.inl rfl⟩
    | back above found rest differs split fits before => exact Or.inr (lower (by rw [split]; simp))
    | moveOn differs none stage =>
      exact Or.inr ⟨tracked.top.2, _, tracked.top_mem_pending,
        Or.inr ⟨rfl, stage, Ne.symm differs, rfl⟩⟩
    | replace differs none stage reached => exact Or.inl rfl
    | push differs none stage unreached => exact Or.inl rfl

end Tracked

namespace Course

variable (course : Course)

/-- The obligations as they are opened: that of the root, and those that the moves would open. -/
def openings : List Pending := course.root :: course.moves.map Move.open

variable {course} {context : Context} {accepts : Bool} {count number : Nat} {obligation : Obligation}

theorem openings_succ (inside : count < course.moves.length) :
    course.openings[1 + count]? = some course.moves[count].open := by
  simp [openings, Nat.add_comm 1 count, inside]

/-- An open obligation stays where it has been opened. -/
theorem opened_of_open (inside : count ≤ course.moves.length) :
    ∀ entry ∈ (course.after count).pending, ∃ opening, course.openings[entry.1]? = some opening ∧
      entry.2.start = opening.start ∧ entry.2.stop = opening.stop := by
  induction count with
  | zero =>
    intro entry member
    have first : entry = (0, course.root) := List.mem_singleton.mp member
    rw [first]
    exact ⟨course.root, rfl, rfl, rfl⟩
  | succ count ih =>
    have here : count < course.moves.length := inside
    intro entry member
    rw [course.after_succ here] at member
    rcases (Tracked.steps _ _ _).carries member with new | ⟨pending, reached, old, same⟩
    · rw [new]
      exact ⟨_, openings_succ here, rfl, rfl⟩
    · obtain ⟨opening, found, start, stop⟩ := ih (Nat.le_of_lt here) _ old
      refine ⟨opening, found, ?_⟩
      rcases same with same | ⟨-, -, -, same⟩ <;> rw [same] <;> exact ⟨start, stop⟩

/-- So does one that has been closed. -/
theorem opened_of_closed (inside : count ≤ course.moves.length) :
    ∀ entry ∈ (course.after count).closed, ∃ opening, course.openings[entry.1]? = some opening ∧
      entry.2.start = opening.start ∧ entry.2.stop = opening.stop := by
  induction count with
  | zero => exact fun _ member => nomatch member
  | succ count ih =>
    have here : count < course.moves.length := inside
    intro entry member
    rw [course.after_succ here] at member
    rcases (Tracked.steps _ _ _).judges member with before | ⟨marked, wasOpen, judged⟩
    · exact ih (Nat.le_of_lt here) entry before
    · obtain ⟨pending, reached, isOpen, same⟩ := Tracked.of_mem_pending_mark wasOpen
      obtain ⟨opening, found, start, stop⟩ := opened_of_open (Nat.le_of_lt here) _ isOpen
      have marks : marked = { pending with reached } := same
      rw [judged, marks]
      exact ⟨opening, found, start, stop⟩

theorem settle_eq (pending : Pending) :
    ∃ outcome, course.settle context accepts pending = pending.resolve outcome := by
  unfold settle
  split
  · split
    · exact ⟨_, rfl⟩
    · exact ⟨_, rfl⟩
  · split <;> exact ⟨_, rfl⟩

theorem opened_of_tracked (member : (number, obligation) ∈ course.tracked context accepts) :
    ∃ opening, course.openings[number]? = some opening ∧
      obligation.start = opening.start ∧ obligation.stop = opening.stop := by
  rcases List.mem_append.mp member with closed | settled
  · rw [closed_last] at closed
    exact opened_of_closed (Nat.le_refl _) _ closed
  · obtain ⟨entry, isPending, same⟩ := List.mem_map.mp settled
    obtain ⟨rfl, rfl⟩ := Prod.mk.inj same
    have isOpen : ∃ pending reached, (entry.1, pending) ∈ (course.after course.moves.length).pending ∧
        entry.2 = { pending with reached } := by
      rw [after_all]
      unfold last at isPending
      split at isPending
      next => exact Tracked.of_mem_pending_mark isPending
      next => exact ⟨entry.2, entry.2.reached, isPending, rfl⟩
    obtain ⟨pending, reached, isOpen, marks⟩ := isOpen
    obtain ⟨outcome, settled⟩ := @settle_eq course context accepts entry.2
    rw [settled, marks]
    exact opened_of_open (Nat.le_refl _) _ isOpen

/-- The numbers of the resolved obligations are those of the last stack. -/
theorem numbers_tracked :
    (course.tracked context accepts).map Prod.fst = (course.after course.moves.length).numbers := by
  rw [fst_tracked, after_all]
  unfold Course.last
  split <;> simp [Tracked.numbers, Tracked.pending, Tracked.mark]

theorem last_of_stackAt {tracked : Tracked} (met : course.stackAt count = some tracked)
    (ends : course.stackAt (count + 1) = none) :
    count = course.moves.length ∧ course.after course.moves.length = tracked := by
  obtain ⟨inside, rfl⟩ := stackAt_eq_some.mp met
  have last : count = course.moves.length := by
    by_cases more : count + 1 ≤ course.moves.length
    · simp [stackAt, more] at ends
    · omega
  exact ⟨last, by rw [last]⟩

/-- An obligation is not open before the move that has its number. -/
theorem not_holds_of_lt (inside : count ≤ course.moves.length) (early : count < number) :
    ¬ (course.after count).Holds number := fun holds =>
  Nat.not_lt.mpr ((openAt_iff inside).mpr holds).number_le early

/-- An obligation is opened by the move that has its number. -/
theorem opened_at (member : (number, obligation) ∈ course.tracked context accepts) :
    course.OpenAt number number ∧ ∀ earlier < number, ¬ course.OpenAt earlier number := by
  obtain ⟨pending, ⟨count, inside, isOpen, -⟩, -⟩ := lastOpen_of_tracked member
  have isOpen : course.OpenAt count number := (openAt_iff inside).mpr (Tracked.holds_of_mem isOpen)
  exact ⟨isOpen.without_gap (Nat.le_refl _) isOpen.number_le, fun earlier before again =>
    not_holds_of_lt again.inside before again.holds⟩

end Course

namespace Chain

variable (chain : Chain)

/-- Where the root of a chain and its steps are shown. -/
def anchors : List (Nat × Nat) :=
  (chain.root.expr.start, chain.root.expr.stop) :: chain.steps.map fun step => (step.start, step.stop)

variable {chain} {view : View} {markers : Markers} {course : Course} {number : Nat} {obligation : Obligation}

theorem span_move? {step : Step} {move : Move} (moved : move? view markers step = some move) :
    move.start = step.start ∧ move.stop = step.stop := by
  unfold move? at moved
  split at moved
  · cases moved
    exact ⟨rfl, rfl⟩
  · cases moved

theorem span_course? (found : (chain.course? markers).runWith view = some course) :
    course.root.start = chain.root.expr.start ∧ course.root.stop = chain.root.expr.stop := by
  simp only [course?, Inquiry.runWith_bind] at found
  split at found
  next =>
    simp only [Inquiry.runWith_bind, Inquiry.runWith_pure] at found
    cases found
    exact ⟨rfl, rfl⟩
  next => cases found

/-- The numbered stack at a step is the one that the moves before it lead to. -/
theorem stack_of_stackAt {count : Nat} {tracked : Tracked}
    (met : chain.stackAt view markers count = some tracked) :
    ∃ course, (chain.course? markers).runWith view = some course ∧
      tracked.stack = (course.moves.take count).foldl Stack.step (.start course.root) := by
  obtain ⟨course, found, reached⟩ := Option.bind_eq_some_iff.mp met
  exact ⟨course, found, Course.stack_of_stackAt reached⟩

theorem Follows.trace_eq (followed : Follows view markers chain course) :
    chain.stackAt view markers = course.stackAt :=
  funext fun _ => followed.stackAt

theorem Follows.step_of_move (followed : Follows view markers chain course) {count : Nat} {move : Move}
    (listed : course.moves[count]? = some move) :
    ∃ step, chain.steps[count]? = some step ∧ move? view markers step = some move := by
  have inside : count < course.moves.length := (List.getElem?_eq_some_iff.mp listed).1
  have moved := followed.moved count (Nat.le_of_lt inside)
  rw [listed] at moved
  exact Option.bind_eq_some_iff.mp moved

/-- The moves open obligations where the steps are shown. -/
theorem Follows.anchors_of_openings (followed : Follows view markers chain course) {opening : Pending}
    (found : course.openings[number]? = some opening) :
    chain.anchors[number]? = some (opening.start, opening.stop) := by
  cases number with
  | zero =>
    obtain rfl : course.root = opening := Option.some.inj found
    obtain ⟨start, stop⟩ := span_course? followed.found
    simp [anchors, start, stop]
  | succ count =>
    simp only [Course.openings, List.getElem?_cons_succ, List.getElem?_map, Option.map_eq_some_iff] at found
    obtain ⟨move, listed, rfl⟩ := found
    obtain ⟨step, isStep, moved⟩ := followed.step_of_move listed
    obtain ⟨start, stop⟩ := span_move? moved
    simp [anchors, isStep, Move.open, start, stop]

/-- An obligation stands where the root or the step with its number is shown, and has been opened
there. -/
theorem Follows.anchor (followed : Follows view markers chain course)
    (member : (number, obligation) ∈ chain.tracked view markers) :
    chain.anchors[number]? = some (obligation.start, obligation.stop) ∧
      chain.OpenAt view markers number number ∧
      ∀ earlier < number, ¬ chain.OpenAt view markers earlier number := by
  rw [followed.tracked_eq] at member
  obtain ⟨⟨number, before⟩, isTracked, same⟩ := List.mem_map.mp member
  obtain ⟨rfl, rfl⟩ := Prod.mk.inj same
  obtain ⟨opening, found, start, stop⟩ := Course.opened_of_tracked isTracked
  have span : (chain.excuse before).start = before.start ∧ (chain.excuse before).stop = before.stop := by
    unfold excuse suppress
    split
    · split <;> exact ⟨rfl, rfl⟩
    · exact ⟨rfl, rfl⟩
  refine ⟨?_, ?_⟩
  · rw [followed.anchors_of_openings found, span.1, span.2, start, stop]
  · simp only [followed.openAt_iff]
    exact Course.opened_at isTracked

/-- An obligation that has been opened is resolved once. -/
theorem Follows.resolved_once (followed : Follows view markers chain course) {count : Nat}
    (isOpen : chain.OpenAt view markers count number) :
    ∃ obligation, (chain.tracked view markers).filter (fun entry => entry.1 = number) =
      [(number, obligation)] := by
  obtain ⟨obligation, member⟩ := Course.exists_tracked chain.context
    ((chain.context.accepts markers.decls).runWith view) (followed.openAt_iff.mp isOpen)
  refine ⟨chain.excuse obligation, ?_⟩
  rw [followed.tracked_eq, List.filter_map]
  simp only [Function.comp_def, course.number_unique _ _ member, List.map_cons, List.map_nil]

theorem Follows.numbers_tracked (followed : Follows view markers chain course) :
    (chain.tracked view markers).map Prod.fst = (course.after course.moves.length).numbers := by
  rw [followed.tracked_eq, List.map_map]
  exact Course.numbers_tracked

theorem Follows.root_open (followed : Follows view markers chain course) :
    chain.OpenAt view markers 0 0 :=
  followed.openAt_iff.mpr ((Course.openAt_iff (Nat.zero_le _)).mpr (Tracked.holds_top _))

end Chain

end Fluent
