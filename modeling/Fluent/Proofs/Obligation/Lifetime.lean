import Fluent.Proofs.Obligation.Grounds

/-! How long an obligation is open, and what becomes of it.

An obligation is on the stack from the move that opens it to the step that takes it off, without
a gap. Whether a terminal method has been called on its builder is noted only while it is on top.
So what it comes to can be read off from the steps that were taken while it was on top. -/

set_option autoImplicit false

namespace Fluent

namespace Tracked

def Holds (tracked : Tracked) (number : Nat) : Prop := number ∈ tracked.pending.map Prod.fst

instance (tracked : Tracked) (number : Nat) : Decidable (tracked.Holds number) :=
  inferInstanceAs (Decidable (number ∈ _))

theorem holds_of_mem {tracked : Tracked} {number : Nat} {pending : Pending}
    (member : (number, pending) ∈ tracked.pending) : tracked.Holds number :=
  List.mem_map.mpr ⟨_, member, rfl⟩

theorem holds_top (tracked : Tracked) : tracked.Holds tracked.top.1 :=
  holds_of_mem tracked.top_mem_pending

theorem holds_mark (tracked : Tracked) (terminal : Bool) (number : Nat) :
    (tracked.mark terminal).Holds number ↔ tracked.Holds number := by
  simp [Holds, pending, mark]

/-- A terminal method is noted on the top alone. -/
theorem reached_mark {tracked : Tracked} (distinct : (tracked.pending.map Prod.fst).Nodup) {terminal : Bool}
    {entry : Nat × Pending} (member : entry ∈ (tracked.mark terminal).pending) :
    ∃ pending, (entry.1, pending) ∈ tracked.pending ∧
      (entry.2.reached = true ↔
        pending.reached = true ∨ tracked.top.1 = entry.1 ∧ terminal = true) := by
  rcases List.mem_append.mp member with below | top
  · refine ⟨entry.2, List.mem_append_left _ below, ?_⟩
    -- What lies below the top has another number.
    have other : tracked.top.1 ≠ entry.1 := by
      rw [pending, List.map_append, List.nodup_append] at distinct
      exact fun same => distinct.2.2 entry.1 (List.mem_map.mpr ⟨entry, below, rfl⟩) tracked.top.1
        (by simp) same.symm
    simp [other]
  · rw [List.mem_singleton.mp top]
    exact ⟨tracked.top.2, tracked.top_mem_pending, by simp [mark]⟩

variable {tracked next : Tracked} {move : Move} {number : Nat}

/-- What is open after a step has been open before it, up to the notes, or is opened by it. -/
theorem Steps.opens (took : Steps tracked move number next) {entry : Nat × Pending}
    (member : entry ∈ next.pending) :
    (entry.1 = number ∧ entry.2.reached = false) ∨
      ∃ marked, (entry.1, marked) ∈ (tracked.mark move.terminal).pending ∧
        entry.2.reached = marked.reached := by
  have lower {other : Nat × Pending} (inside : other ∈ tracked.below) :
      (other.1, other.2) ∈ (tracked.mark move.terminal).pending := mem_pending_of_mem_below inside
  rcases List.mem_append.mp member with below | top
  · rw [List.mem_reverse] at below
    refine Or.inr ?_
    cases took with
    | stay same => exact ⟨entry.2, lower below, rfl⟩
    | back above found rest other split fits before =>
      exact ⟨entry.2, lower (by rw [split]; simp [below]), rfl⟩
    | moveOn other none stage => exact ⟨entry.2, lower below, rfl⟩
    | replace other none stage reached => exact ⟨entry.2, lower below, rfl⟩
    | push other none stage unreached =>
      rcases List.mem_cons.mp below with rfl | below
      · exact ⟨_, top_mem_pending _, rfl⟩
      · exact ⟨entry.2, lower below, rfl⟩
  · rw [List.mem_singleton.mp top]
    cases took with
    | stay same => exact Or.inr ⟨_, top_mem_pending _, rfl⟩
    | back above found rest other split fits before =>
      exact Or.inr ⟨found.2, lower (by rw [split]; simp), rfl⟩
    | moveOn other none stage => exact Or.inr ⟨_, top_mem_pending (tracked.mark move.terminal), rfl⟩
    | replace other none stage reached => exact Or.inl ⟨rfl, rfl⟩
    | push other none stage unreached => exact Or.inl ⟨rfl, rfl⟩

/-- Below the top no terminal method has been called. -/
theorem Steps.quiet_below (took : Steps tracked move number next)
    (quiet : ∀ entry ∈ tracked.below, entry.2.reached = false) :
    ∀ entry ∈ next.below, entry.2.reached = false := by
  cases took with
  | stay same => exact quiet
  | back above found rest other below fits before =>
    exact fun entry member => quiet entry (by rw [below]; simp [member])
  | moveOn other none stage => exact quiet
  | replace other none stage reached => exact quiet
  | push other none stage unreached => exact List.forall_mem_cons.mpr ⟨unreached, quiet⟩

end Tracked

namespace Course

variable (course : Course)

/-- The numbered stack when a step is about to be taken, or is left when all have been taken. The
walk is over where there is none. -/
def stackAt (count : Nat) : Option Tracked :=
  if count ≤ course.moves.length then some (course.after count) else none

def OpenAt (count number : Nat) : Prop :=
  ∃ tracked, course.stackAt count = some tracked ∧ tracked.Holds number

/-- The steps that the walk takes: does each call a terminal method, and where does it stand? -/
def calls : List (Bool × NodeRef) :=
  course.moves.map (fun move => (move.terminal, move.node)) ++
    match course.ending with
    | .consumed terminal node => [(terminal, node)]
    | .finished => []

/-- Is a terminal method called on the builder of an obligation before a step is taken? -/
def CompletedBefore (count number : Nat) : Prop :=
  ∃ earlier < count, ∃ node, course.calls[earlier]? = some (true, node) ∧
    (course.after earlier).top.1 = number

/-- Is a terminal method called on the builder of an obligation, while it is on top? -/
def Completed (number : Nat) : Prop :=
  ∃ count, course.CompletedBefore count number

variable {course} {count later number : Nat} {obligation : Obligation}

theorem stackAt_eq_some {tracked : Tracked} : course.stackAt count = some tracked ↔
    count ≤ course.moves.length ∧ course.after count = tracked := by
  unfold stackAt
  split <;> simp [*]

/-- Without the numbers, it is the stack of the moves before the step. -/
theorem stack_of_stackAt {tracked : Tracked} (found : course.stackAt count = some tracked) :
    tracked.stack = (course.moves.take count).foldl Stack.step (.start course.root) := by
  obtain ⟨-, rfl⟩ := stackAt_eq_some.mp found
  rw [after, Tracked.stack_run, List.zipIdx_map_fst]
  rfl

theorem openAt_iff (inside : count ≤ course.moves.length) :
    course.OpenAt count number ↔ (course.after count).Holds number := by
  simp [OpenAt, stackAt, inside]

theorem OpenAt.inside (isOpen : course.OpenAt count number) : count ≤ course.moves.length := by
  obtain ⟨tracked, found, -⟩ := isOpen
  exact (stackAt_eq_some.mp found).1

theorem OpenAt.holds (isOpen : course.OpenAt count number) : (course.after count).Holds number :=
  (openAt_iff isOpen.inside).mp isOpen

/-- What is open has been open before the last move, or has been opened by it. -/
theorem OpenAt.before (isOpen : course.OpenAt (count + 1) number) :
    course.OpenAt count number ∨ number = count + 1 := by
  have inside : count < course.moves.length := isOpen.inside
  obtain ⟨entry, member, rfl⟩ := List.mem_map.mp isOpen.holds
  rw [course.after_succ inside] at member
  rcases (Tracked.steps _ _ _).opens member with ⟨new, -⟩ | ⟨marked, old, -⟩
  · exact Or.inr (new.trans (Nat.add_comm 1 count))
  · refine Or.inl ((openAt_iff (Nat.le_of_lt inside)).mpr ?_)
    exact (Tracked.holds_mark _ _ _).mp (Tracked.holds_of_mem old)

theorem OpenAt.number_le (isOpen : course.OpenAt count number) : number ≤ count := by
  induction count with
  | zero =>
    obtain ⟨entry, member, rfl⟩ := List.mem_map.mp isOpen.holds
    rw [List.mem_singleton.mp member]
    exact Nat.le_refl 0
  | succ count ih =>
    rcases isOpen.before with before | new
    · exact Nat.le_succ_of_le (ih before)
    · exact Nat.le_of_eq new

/-- An obligation is on the stack without a gap. -/
theorem OpenAt.without_gap (isOpen : course.OpenAt later number) (first : number ≤ count)
    (order : count ≤ later) : course.OpenAt count number := by
  induction order with
  | refl => exact isOpen
  | @step later order ih =>
    rcases isOpen.before with before | new
    · exact ih before
    · have bound : number ≤ later := Nat.le_trans first order
      omega

/-- An obligation leaves the stack once. -/
theorem leaves_once (isOpen : course.OpenAt count number) (gone : ¬ course.OpenAt (count + 1) number)
    (again : course.OpenAt later number) : later ≤ count := by
  refine Nat.le_of_not_lt fun behind => gone ?_
  exact again.without_gap (Nat.le_succ_of_le isOpen.number_le) behind

theorem distinct_after (course : Course) (count : Nat) :
    ((course.after count).pending.map Prod.fst).Nodup :=
  (List.nodup_append.mp (Tracked.numbers_nodup course.root (course.moves.take count))).2.1

theorem quiet_below (course : Course) (count : Nat) :
    ∀ entry ∈ (course.after count).below, entry.2.reached = false :=
  Tracked.run_induction (fun _ tracked => ∀ entry ∈ tracked.below, entry.2.reached = false)
    (course.moves.take count) (fun number tracked move _ quiet => (tracked.steps move number).quiet_below quiet)
    (fun _ member => nomatch member)

theorem calls_of_lt (inside : count < course.moves.length) :
    course.calls[count]? = some (course.moves[count].terminal, course.moves[count].node) := by
  simp [calls, List.getElem?_append, inside]

theorem lt_of_calls {call : Bool × NodeRef} (taken : course.calls[count]? = some call) :
    count ≤ course.moves.length := by
  obtain ⟨inside, -⟩ := List.getElem?_eq_some_iff.mp taken
  simp only [calls, List.length_append, List.length_map] at inside
  split at inside <;> simp only [List.length_cons, List.length_nil] at inside <;> omega

theorem completedBefore_succ : course.CompletedBefore (count + 1) number ↔
    course.CompletedBefore count number ∨
      ∃ node, course.calls[count]? = some (true, node) ∧ (course.after count).top.1 = number := by
  constructor
  · rintro ⟨earlier, bound, node, taken, top⟩
    rcases Nat.lt_succ_iff_lt_or_eq.mp bound with before | rfl
    · exact Or.inl ⟨earlier, before, node, taken, top⟩
    · exact Or.inr ⟨node, taken, top⟩
  · rintro (⟨earlier, before, node, taken, top⟩ | ⟨node, taken, top⟩)
    · exact ⟨earlier, Nat.lt_succ_of_lt before, node, taken, top⟩
    · exact ⟨count, Nat.lt_succ_self count, node, taken, top⟩

theorem top_open {call : Bool × NodeRef} (taken : course.calls[count]? = some call) :
    course.OpenAt count (course.after count).top.1 :=
  (openAt_iff (lt_of_calls taken)).mpr (Tracked.holds_top _)

theorem CompletedBefore.number_lt (completed : course.CompletedBefore count number) : number < count := by
  obtain ⟨earlier, bound, node, taken, rfl⟩ := completed
  exact Nat.lt_of_le_of_lt (top_open taken).number_le bound

/-- An obligation is not on top after it has left the stack. -/
theorem completed_iff_of_gone (isOpen : course.OpenAt count number)
    (gone : ¬ course.OpenAt (count + 1) number) :
    course.Completed number ↔ course.CompletedBefore (count + 1) number := by
  refine ⟨?_, fun completed => ⟨_, completed⟩⟩
  rintro ⟨later, earlier, -, node, taken, rfl⟩
  exact ⟨earlier, Nat.lt_succ_of_le (leaves_once isOpen gone (top_open taken)), node, taken, rfl⟩

/-- The note on the obligations after a mark says whether a terminal method has been called by then. -/
theorem reached_marked {terminal : Bool} {node : NodeRef} (taken : course.calls[count]? = some (terminal, node))
    (known : ∀ entry ∈ (course.after count).pending,
      entry.2.reached = true ↔ course.CompletedBefore count entry.1)
    {entry : Nat × Pending} (member : entry ∈ ((course.after count).mark terminal).pending) :
    entry.2.reached = true ↔ course.CompletedBefore (count + 1) entry.1 := by
  obtain ⟨pending, before, noted⟩ := Tracked.reached_mark (course.distinct_after count) member
  have called : (∃ node, course.calls[count]? = some (true, node) ∧ (course.after count).top.1 = entry.1) ↔
      (course.after count).top.1 = entry.1 ∧ terminal = true := by
    rw [taken]
    simp [and_comm]
  rw [noted, known _ before, completedBefore_succ, called]

theorem reached_iff (fresh : course.root.reached = false) (inside : count ≤ course.moves.length) :
    ∀ entry ∈ (course.after count).pending,
      entry.2.reached = true ↔ course.CompletedBefore count entry.1 := by
  induction count with
  | zero =>
    intro entry member
    have first : entry = (0, course.root) := List.mem_singleton.mp member
    rw [first]
    refine iff_of_false (by simp [fresh]) ?_
    rintro ⟨earlier, before, -⟩
    cases before
  | succ count ih =>
    have inside : count < course.moves.length := inside
    intro entry member
    rw [course.after_succ inside] at member
    rcases (Tracked.steps _ _ _).opens member with ⟨new, unreached⟩ | ⟨marked, old, same⟩
    · -- A number that has just been given out has not been on top before.
      refine iff_of_false (by simp [unreached]) fun completed => ?_
      have bound := completed.number_lt
      omega
    · rw [same]
      exact reached_marked (calls_of_lt inside) (ih (Nat.le_of_lt inside)) old

/-- What a move has closed is discharged if a terminal method was called, and else lost at the move. -/
theorem outcome_of_closed (fresh : course.root.reached = false) (inside : count ≤ course.moves.length)
    (member : (number, obligation) ∈ (course.after count).closed) :
    ∃ step < count, ∃ call, course.calls[step]? = some call ∧ course.OpenAt step number ∧
      ¬ course.OpenAt (step + 1) number ∧
      ((course.Completed number ∧ obligation.outcome = .discharged) ∨
        ¬ course.Completed number ∧ obligation.outcome = .violated .escape (some call.2)) := by
  induction count with
  | zero => cases member
  | succ count ih =>
    have here : count < course.moves.length := inside
    have closed := member
    rw [course.after_succ here] at member
    rcases (Tracked.steps _ _ _).judges member with before | ⟨marked, wasOpen, judged⟩
    · obtain ⟨step, bound, rest⟩ := ih (Nat.le_of_lt here) before
      exact ⟨step, Nat.lt_succ_of_lt bound, rest⟩
    · have isOpen : course.OpenAt count number :=
        (openAt_iff (Nat.le_of_lt here)).mpr
          ((Tracked.holds_mark _ _ _).mp (Tracked.holds_of_mem wasOpen))
      have gone : ¬ course.OpenAt (count + 1) number := by
        rw [openAt_iff inside]
        exact not_open_of_closed closed
      refine ⟨count, Nat.lt_succ_self count, _, calls_of_lt here, isOpen, gone, ?_⟩
      -- It is judged by the note that it has after the mark, at the moment it is closed.
      have noted := reached_marked (calls_of_lt here) (reached_iff fresh (Nat.le_of_lt here)) wasOpen
      rw [completed_iff_of_gone isOpen gone, ← noted]
      subst judged
      cases reached : marked.reached <;> simp [Pending.close, Pending.resolve, reached]

/-- What is open when the walk is over has the right note. -/
theorem reached_last (fresh : course.root.reached = false) {entry : Nat × Pending}
    (member : entry ∈ course.last.pending) :
    course.OpenAt course.moves.length entry.1 ∧ (entry.2.reached = true ↔ course.Completed entry.1) := by
  have known := course.reached_iff fresh (Nat.le_refl _)
  have all : course.Completed entry.1 ↔ course.CompletedBefore (course.moves.length + 1) entry.1 := by
    refine ⟨?_, fun completed => ⟨_, completed⟩⟩
    rintro ⟨later, earlier, -, node, taken, top⟩
    exact ⟨earlier, Nat.lt_succ_of_le (lt_of_calls taken), node, taken, top⟩
  rw [openAt_iff (Nat.le_refl _), all]
  unfold last at member
  split at member
  next terminal node ending =>
    -- The step that ends the walk marks the top before everything is closed.
    rw [← course.after_all] at member
    have taken : course.calls[course.moves.length]? = some (terminal, node) := by
      simp [calls, ending]
    exact ⟨(Tracked.holds_mark _ _ _).mp (Tracked.holds_of_mem member), reached_marked taken known member⟩
  next ending =>
    rw [← course.after_all] at member
    refine ⟨Tracked.holds_of_mem member, (known entry member).trans ?_⟩
    have none : course.calls[course.moves.length]? = none := by simp [calls, ending]
    simp [completedBefore_succ, none]

end Course

end Fluent
