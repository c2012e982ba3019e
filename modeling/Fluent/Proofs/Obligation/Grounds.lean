import Fluent.Proofs.Obligation.Walk

/-! What an obligation rests on when it is resolved.

While an obligation is open it may move on from one type to the next. It is resolved with the
facts and the message that it has when it is open for the last time, and these come from the
root or from a move of the course. -/

set_option autoImplicit false

namespace Fluent

namespace Tracked

/-- Marking changes the open obligations only in that a terminal method has been called. -/
theorem mem_pending_mark {tracked : Tracked} {terminal : Bool} {entry : Nat × Pending}
    (member : entry ∈ (tracked.mark terminal).pending) :
    ∃ pending, (entry.1, pending) ∈ tracked.pending ∧ entry.2.type = pending.type ∧
      entry.2.facts = pending.facts ∧ entry.2.message = pending.message := by
  rcases List.mem_append.mp member with below | top
  · exact ⟨entry.2, List.mem_append_left _ below, rfl, rfl, rfl⟩
  · rw [List.mem_singleton.mp top]
    exact ⟨tracked.top.2, List.mem_append_right _ (List.mem_singleton_self _), rfl, rfl, rfl⟩

theorem mem_pending_of_mem_below {tracked : Tracked} {entry : Nat × Pending}
    (member : entry ∈ tracked.below) : entry ∈ tracked.pending :=
  List.mem_append_left _ (List.mem_reverse.mpr member)

theorem top_mem_pending (tracked : Tracked) : tracked.top ∈ tracked.pending :=
  List.mem_append_right _ (List.mem_singleton_self _)

/-- What a step closes has been open before it, and is judged by its notes. -/
theorem Steps.judges {tracked next : Tracked} {move : Move} {number : Nat}
    (took : Steps tracked move number next) {closed : Nat × Obligation} (member : closed ∈ next.closed) :
    closed ∈ tracked.closed ∨ ∃ marked, (closed.1, marked) ∈ (tracked.mark move.terminal).pending ∧
      closed.2 = marked.close .escape move.node := by
  cases took with
  | stay same => exact Or.inl member
  | back above found rest other below fits before =>
    rcases List.mem_append.mp member with member | lost
    · exact Or.inl member
    · obtain ⟨entry, isLost, rfl⟩ := List.mem_map.mp lost
      refine Or.inr ⟨entry.2, ?_, rfl⟩
      rcases List.mem_cons.mp (List.mem_reverse.mp isLost) with rfl | isAbove
      · exact top_mem_pending _
      · exact mem_pending_of_mem_below (by simp [mark, below, isAbove])
  | moveOn other none stage => exact Or.inl member
  | replace other none stage reached =>
    rcases List.mem_append.mp member with member | completed
    · exact Or.inl member
    · rw [List.mem_singleton.mp completed]
      refine Or.inr ⟨_, top_mem_pending (tracked.mark move.terminal), ?_⟩
      simp [Pending.close, Pending.resolve, reached]
  | push other none stage unreached => exact Or.inl member

theorem Steps.closes {tracked next : Tracked} {move : Move} {number : Nat}
    (took : Steps tracked move number next) {closed : Nat × Obligation} (member : closed ∈ next.closed) :
    closed ∈ tracked.closed ∨ ∃ pending, (closed.1, pending) ∈ tracked.pending ∧
      closed.2.facts = pending.facts ∧ closed.2.message = pending.message := by
  rcases took.judges member with before | ⟨marked, wasOpen, judged⟩
  · exact Or.inl before
  · obtain ⟨pending, isPending, -, facts, message⟩ := mem_pending_mark wasOpen
    rw [judged]
    exact Or.inr ⟨pending, isPending, facts, message⟩

/-- An open obligation keeps to its grounds at each step, or takes those of the move. -/
theorem Steps.grounds {tracked next : Tracked} {move : Move} {number : Nat}
    (took : Steps tracked move number next) {typed : NamedId → TypeFacts → Prop}
    {worded : Text.Bytes → Prop} (typedMove : typed move.type move.facts) (wordedMove : worded move.message)
    (grounded : ∀ entry ∈ tracked.pending, typed entry.2.type entry.2.facts ∧ worded entry.2.message) :
    ∀ entry ∈ next.pending, typed entry.2.type entry.2.facts ∧ worded entry.2.message := by
  rw [forall_mem_pending] at grounded ⊢
  obtain ⟨top, lower⟩ := grounded
  cases took with
  | stay same => exact ⟨top, lower⟩
  | back above found rest other below fits before =>
    rw [below] at lower
    exact ⟨lower found (by simp), fun entry member => lower entry (by simp [member])⟩
  | moveOn other none stage =>
    refine ⟨⟨typedMove, ?_⟩, lower⟩
    simp only
    split
    · exact wordedMove
    · exact top.2
  | replace other none stage reached => exact ⟨⟨typedMove, wordedMove⟩, lower⟩
  | push other none stage unreached =>
    exact ⟨⟨typedMove, wordedMove⟩, List.forall_mem_cons.mpr ⟨top, lower⟩⟩

end Tracked

namespace Course

variable (course : Course)

/-- The numbered stack after a number of moves. -/
def after (count : Nat) : Tracked :=
  (Tracked.start course.root).run ((course.moves.take count).zipIdx 1)

theorem after_all : course.after course.moves.length = course.numbered := by
  rw [after, List.take_length, numbered]

theorem after_succ {count : Nat} (inside : count < course.moves.length) :
    course.after (count + 1) = (course.after count).step (course.moves[count], 1 + count) := by
  rw [after, after, List.take_succ_eq_append_getElem inside, List.zipIdx_append, Tracked.run,
    List.foldl_append, List.length_take_of_le (Nat.le_of_lt inside)]
  rfl

/-- Is an obligation, as it stands, open for the last time? -/
def LastOpen (number : Nat) (pending : Pending) : Prop :=
  ∃ count ≤ course.moves.length, (number, pending) ∈ (course.after count).pending ∧
    ∀ later ≤ course.moves.length, count < later → number ∉ (course.after later).pending.map Prod.fst

variable {course} {number : Nat} {obligation : Obligation}

theorem closed_after {count later : Nat} (order : count ≤ later) (inside : later ≤ course.moves.length)
    (member : (number, obligation) ∈ (course.after count).closed) :
    (number, obligation) ∈ (course.after later).closed := by
  induction order with
  | refl => exact member
  | step _ ih =>
    rw [course.after_succ inside]
    exact (Tracked.steps _ _ _).closed (ih (Nat.le_of_lt inside))

/-- Numbers are not given out twice, so what is closed is open no more. -/
theorem not_open_of_closed {count : Nat} (member : (number, obligation) ∈ (course.after count).closed) :
    number ∉ (course.after count).pending.map Prod.fst := by
  have nodup := Tracked.numbers_nodup course.root (course.moves.take count)
  intro isOpen
  exact (List.nodup_append.mp nodup).2.2 number (List.mem_map.mpr ⟨_, member, rfl⟩) number isOpen rfl

theorem lastOpen_of_closed {count : Nat} (inside : count ≤ course.moves.length)
    (member : (number, obligation) ∈ (course.after count).closed) :
    ∃ pending, course.LastOpen number pending ∧ obligation.facts = pending.facts ∧
      obligation.message = pending.message := by
  induction count with
  | zero => cases member
  | succ count ih =>
    have closed := member
    rw [course.after_succ inside] at member
    rcases (Tracked.steps _ _ _).closes member with before | ⟨pending, isOpen, facts, message⟩
    · exact ih (Nat.le_of_lt inside) before
    · refine ⟨pending, ⟨count, Nat.le_of_lt inside, isOpen, fun later within order => ?_⟩, facts, message⟩
      exact not_open_of_closed (closed_after order within closed)

theorem lastOpen_of_open {pending : Pending} (isOpen : (number, pending) ∈ course.numbered.pending) :
    course.LastOpen number pending := by
  rw [← course.after_all] at isOpen
  exact ⟨_, Nat.le_refl _, isOpen, fun later within order => absurd order (Nat.not_lt.mpr within)⟩

theorem settle_facts (context : Context) (accepts : Bool) (pending : Pending) :
    (course.settle context accepts pending).facts = pending.facts ∧
      (course.settle context accepts pending).message = pending.message := by
  unfold settle
  split
  · split <;> exact ⟨rfl, rfl⟩
  · split <;> exact ⟨rfl, rfl⟩

/-- A resolved obligation has the facts and the message that it had when it was last open. -/
theorem lastOpen_of_tracked {context : Context} {accepts : Bool}
    (member : (number, obligation) ∈ course.tracked context accepts) :
    ∃ pending, course.LastOpen number pending ∧ obligation.facts = pending.facts ∧
      obligation.message = pending.message := by
  have closed : course.last.closed = course.numbered.closed := by
    unfold last
    split <;> rfl
  have isOpen {entry : Nat × Pending} (member : entry ∈ course.last.pending) :
      ∃ pending, (entry.1, pending) ∈ course.numbered.pending ∧ entry.2.facts = pending.facts ∧
        entry.2.message = pending.message := by
    unfold last at member
    split at member
    next =>
      obtain ⟨pending, isPending, -, facts, message⟩ := Tracked.mem_pending_mark member
      exact ⟨pending, isPending, facts, message⟩
    next => exact ⟨entry.2, member, rfl, rfl⟩
  rcases List.mem_append.mp member with member | settled
  · rw [closed, ← course.after_all] at member
    exact lastOpen_of_closed (Nat.le_refl _) member
  · obtain ⟨entry, isPending, same⟩ := List.mem_map.mp settled
    obtain ⟨rfl, rfl⟩ := Prod.mk.inj same
    obtain ⟨pending, found, facts, message⟩ := isOpen isPending
    obtain ⟨sameFacts, sameMessage⟩ := course.settle_facts context accepts entry.2
    exact ⟨pending, lastOpen_of_open found, sameFacts.trans facts, sameMessage.trans message⟩

/-- The grounds of an open obligation are those of the root or of moves. -/
theorem LastOpen.grounds {pending : Pending} (lastOpen : course.LastOpen number pending)
    (typed : NamedId → TypeFacts → Prop) (worded : Text.Bytes → Prop)
    (root : typed course.root.type course.root.facts ∧ worded course.root.message)
    (moves : ∀ move ∈ course.moves, typed move.type move.facts ∧ worded move.message) :
    typed pending.type pending.facts ∧ worded pending.message := by
  obtain ⟨count, -, isOpen, -⟩ := lastOpen
  refine Tracked.run_induction (fun _ tracked => ∀ entry ∈ tracked.pending,
    typed entry.2.type entry.2.facts ∧ worded entry.2.message) (course.moves.take count) ?_ ?_ _ isOpen
  · intro number tracked move member grounded
    obtain ⟨typedMove, wordedMove⟩ := moves move (List.mem_of_mem_take member)
    exact (tracked.steps move number).grounds typedMove wordedMove grounded
  · intro entry member
    rw [List.mem_singleton.mp member]
    exact root

end Course

end Fluent
