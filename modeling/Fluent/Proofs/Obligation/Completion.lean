import Fluent.Proofs.Obligation.Verdict

/-! What becomes of the obligations on the stack when the last step calls a terminal method.

They are discharged, with one exception. If the last step goes back to the builder of a lower
obligation, those between it and the top are taken off the stack, and no terminal method has
been called on their builders. -/

set_option autoImplicit false

namespace Fluent

open Inquiry (View)

namespace Tracked

/-- The obligations below the top that lie above the nearest one with a type. There are none if the
top has the type itself, or no obligation has it. -/
def between (tracked : Tracked) (type : NamedId) : List Nat :=
  if type = tracked.top.2.type ∨ ∀ entry ∈ tracked.below, entry.2.type ≠ type then []
  else (tracked.below.takeWhile fun entry => entry.2.type ≠ type).map Prod.fst

variable {tracked next : Tracked} {move : Move} {number other : Nat}

theorem between_eq {above rest : List (Nat × Pending)} {found : Nat × Pending} {type : NamedId}
    (differs : type ≠ tracked.top.2.type) (below : tracked.below = above ++ found :: rest)
    (fits : found.2.type = type) (before : ∀ entry ∈ above, entry.2.type ≠ type) :
    tracked.between type = above.map Prod.fst := by
  have some : ¬ ∀ entry ∈ tracked.below, entry.2.type ≠ type :=
    fun none => none found (by rw [below]; simp) fits
  have taken : tracked.below.takeWhile (fun entry => decide (entry.2.type ≠ type)) = above := by
    rw [below, List.takeWhile_append_of_pos (by simpa using before), List.takeWhile_cons_of_neg (by simp [fits]),
      List.append_nil]
  rw [between, if_neg (not_or.mpr ⟨differs, some⟩), taken]

theorem below_of_mem_between {type : NamedId} (member : other ∈ tracked.between type) :
    ∃ entry ∈ tracked.below, entry.1 = other := by
  unfold between at member
  split at member
  next => cases member
  next =>
    obtain ⟨entry, taken, rfl⟩ := List.mem_map.mp member
    exact ⟨entry, (List.takeWhile_prefix _).subset taken, rfl⟩

theorem holds_iff : tracked.Holds other ↔ tracked.top.1 = other ∨ ∃ entry ∈ tracked.below, entry.1 = other := by
  simp [Holds, pending, or_comm, eq_comm]

/-- What a step takes off the stack is the top, or lies between the top and where the step goes. -/
theorem Steps.keeps (took : Steps tracked move number next) (holds : tracked.Holds other) :
    next.Holds other ∨ tracked.top.1 = other ∨ other ∈ tracked.between move.type := by
  rcases holds_iff.mp holds with top | ⟨entry, member, rfl⟩
  · exact Or.inr (Or.inl top)
  · cases took with
    | stay same => exact Or.inl (holds_iff.mpr (Or.inr ⟨entry, member, rfl⟩))
    | back above found rest differs below fits before =>
      rw [between_eq differs below fits before]
      rw [below, List.mem_append, List.mem_cons] at member
      rcases member with above | rfl | behind
      · exact Or.inr (Or.inr (List.mem_map.mpr ⟨entry, above, rfl⟩))
      · exact Or.inl (holds_top _)
      · exact Or.inl (holds_iff.mpr (Or.inr ⟨entry, behind, rfl⟩))
    | moveOn differs none stage => exact Or.inl (holds_iff.mpr (Or.inr ⟨entry, member, rfl⟩))
    | replace differs none stage reached => exact Or.inl (holds_iff.mpr (Or.inr ⟨entry, member, rfl⟩))
    | push differs none stage unreached =>
      exact Or.inl (holds_iff.mpr (Or.inr ⟨entry, List.mem_cons_of_mem _ member, rfl⟩))

theorem nodup_numbers (distinct : (tracked.pending.map Prod.fst).Nodup) :
    (tracked.top.1 :: tracked.below.map Prod.fst).Nodup := by
  have turned : tracked.pending.map Prod.fst = (tracked.top.1 :: tracked.below.map Prod.fst).reverse := by
    simp [pending]
  rwa [turned, (List.reverse_perm _).nodup_iff] at distinct

/-- A step takes off what lies between the top and where it goes. -/
theorem Steps.drops (took : Steps tracked move number next)
    (distinct : (tracked.pending.map Prod.fst).Nodup) (member : other ∈ tracked.between move.type) :
    ¬ next.Holds other := by
  -- Nothing lies between unless the step goes back.
  have empty (idle : move.type = tracked.top.2.type ∨ ∀ entry ∈ tracked.below, entry.2.type ≠ move.type) :
      False := by
    rw [between, if_pos idle] at member
    cases member
  cases took with
  | stay same => exact (empty (Or.inl same)).elim
  | back above found rest differs below fits before =>
    rw [between_eq differs below fits before] at member
    have numbers := (List.nodup_cons.mp (nodup_numbers distinct)).2
    rw [below, List.map_append, List.nodup_append] at numbers
    have apart := numbers.2.2 other member
    rw [holds_iff]
    rintro (top | ⟨entry, behind, same⟩)
    · exact apart found.1 List.mem_cons_self top.symm
    · exact apart entry.1 (List.mem_cons_of_mem _ (List.mem_map.mpr ⟨entry, behind, rfl⟩)) same.symm
  | moveOn differs none stage => exact (empty (Or.inr none)).elim
  | replace differs none stage reached => exact (empty (Or.inr none)).elim
  | push differs none stage unreached => exact (empty (Or.inr none)).elim

theorem top_not_between (distinct : (tracked.pending.map Prod.fst).Nodup) {type : NamedId}
    (member : other ∈ tracked.between type) : tracked.top.1 ≠ other := by
  obtain ⟨entry, below, rfl⟩ := below_of_mem_between member
  rintro same
  exact (List.nodup_cons.mp (nodup_numbers distinct)).1 (List.mem_map.mpr ⟨entry, below, same.symm⟩)

theorem Steps.numbers_kept (took : Steps tracked move number next) (member : other ∈ tracked.numbers) :
    other ∈ next.numbers := by
  rcases took.numbers with same | more
  · exact same.mem_iff.mpr member
  · exact more.mem_iff.mpr (List.mem_cons_of_mem _ member)

end Tracked

namespace Course

variable {course : Course} {context : Context} {accepts : Bool} {count number : Nat} {obligation : Obligation}

/-- An obligation that has been opened is among those that are resolved. -/
theorem exists_tracked (context : Context) (accepts : Bool) (isOpen : course.OpenAt count number) :
    ∃ obligation, (number, obligation) ∈ course.tracked context accepts := by
  -- Numbers are never dropped: what leaves the stack is kept among the closed.
  have kept : ∀ later, count ≤ later → later ≤ course.moves.length →
      number ∈ (course.after later).numbers := by
    intro later order
    induction order with
    | refl => exact fun _ => List.mem_append_right _ isOpen.holds
    | step _ ih =>
      intro inside
      rw [course.after_succ inside]
      exact (Tracked.steps _ _ _).numbers_kept (ih (Nat.le_of_lt inside))
  have last : course.last.numbers = (course.after course.moves.length).numbers := by
    rw [after_all]
    unfold Course.last
    split <;> simp [Tracked.numbers, Tracked.pending, Tracked.mark]
  have numbered := kept _ isOpen.inside (Nat.le_refl _)
  rw [← last, ← fst_tracked course context accepts] at numbered
  obtain ⟨entry, member, rfl⟩ := List.mem_map.mp numbered
  exact ⟨entry.2, member⟩

/-- An obligation that a move goes past has not been completed, and is lost there. -/
theorem verdict_of_between (fresh : course.root.reached = false) (inside : count < course.moves.length)
    (passed : number ∈ (course.after count).between course.moves[count].type)
    (member : (number, obligation) ∈ course.tracked context accepts) :
    obligation.outcome = .violated .escape (some course.moves[count].node) := by
  have took := (course.after count).steps course.moves[count] (1 + count)
  obtain ⟨entry, below, rfl⟩ := Tracked.below_of_mem_between passed
  have isPending := Tracked.mem_pending_of_mem_below below
  have isOpen : course.OpenAt count entry.1 :=
    (openAt_iff (Nat.le_of_lt inside)).mpr (Tracked.holds_of_mem isPending)
  have gone : ¬ course.OpenAt (count + 1) entry.1 := by
    rw [openAt_iff inside, course.after_succ inside]
    exact took.drops (course.distinct_after count) passed
  -- It lies below the top, where no terminal method is called, and is not on top again.
  have incomplete : ¬ course.Completed entry.1 := by
    rw [completed_iff_of_gone isOpen gone, completedBefore_succ,
      ← course.reached_iff fresh (Nat.le_of_lt inside) entry isPending, course.quiet_below count entry below]
    rintro (noted | ⟨node, -, top⟩)
    · cases noted
    · exact Tracked.top_not_between (course.distinct_after count) passed top
  have left : ¬ course.OpenAt course.moves.length entry.1 := by
    intro again
    have late := leaves_once isOpen gone again
    omega
  obtain ⟨discharged, lost⟩ := verdict fresh member
  have undischarged : obligation.outcome ≠ .discharged := by
    rw [Ne, discharged]
    simp [incomplete, left]
  rcases lost undischarged with ⟨step, called, taken, before, after, outcome⟩ | ⟨-, last, -⟩
  · have same : step = count :=
      Nat.le_antisymm (leaves_once isOpen gone before) (leaves_once before after isOpen)
    rw [same, calls_of_lt inside] at taken
    rw [outcome, ← Option.some.inj taken]
  · exact (left last).elim

/-- An obligation is discharged that the last move, which calls a terminal method, does not go past. -/
theorem verdict_of_not_between (fresh : course.root.reached = false) (terminated : course.terminated = true)
    (last : course.moves.length = count + 1) (terminal : course.moves[count].terminal = true)
    (isOpen : course.OpenAt count number)
    (spared : number ∉ (course.after count).between course.moves[count].type)
    (member : (number, obligation) ∈ course.tracked context accepts) :
    obligation.outcome = .discharged := by
  have inside : count < course.moves.length := by omega
  rw [(verdict fresh member).1]
  rcases ((course.after count).steps course.moves[count] (1 + count)).keeps isOpen.holds with
    kept | top | passed
  · have still : course.OpenAt (count + 1) number := by
      rw [openAt_iff inside, course.after_succ inside]
      exact kept
    rw [← last] at still
    exact Or.inr (Or.inl ⟨still, terminated⟩)
  · refine Or.inl ⟨count + 1, completedBefore_succ.mpr (Or.inr ⟨course.moves[count].node, ?_, top⟩)⟩
    rw [calls_of_lt inside, terminal]
  · exact (spared passed).elim

theorem verdict_at_last (fresh : course.root.reached = false) (terminated : course.terminated = true)
    (last : course.moves.length = count + 1) (terminal : course.moves[count].terminal = true)
    (isOpen : course.OpenAt count number)
    (member : (number, obligation) ∈ course.tracked context accepts) :
    (obligation.outcome = .discharged ↔ number ∉ (course.after count).between course.moves[count].type) ∧
    (obligation.outcome ≠ .discharged →
      obligation.outcome = .violated .escape (some course.moves[count].node)) := by
  by_cases passed : number ∈ (course.after count).between course.moves[count].type
  · have lost := verdict_of_between fresh (by omega) passed member
    exact ⟨iff_of_false (by simp [lost]) fun spared => spared passed, fun _ => lost⟩
  · have discharged := verdict_of_not_between fresh terminated last terminal isOpen passed member
    exact ⟨iff_of_true discharged passed, fun undischarged => (undischarged discharged).elim⟩

end Course

namespace Chain

variable {chain : Chain} {obligation : Obligation}

theorem excuse_discharged : (chain.excuse obligation).outcome = .discharged ↔ obligation.outcome = .discharged := by
  unfold excuse suppress
  cases chain.suppressed <;> cases outcome : obligation.outcome <;> simp [outcome]

theorem excuse_violated {usage : Usage} {node : Option NodeRef} (lost : obligation.outcome = .violated usage node) :
    (chain.excuse obligation).outcome =
      if chain.suppressed then .suppressed chain.context.usage else .violated usage node := by
  cases exempt : chain.suppressed <;> simp [excuse, suppress, exempt, lost]

end Chain

/-- A chain that ends in a terminal method. The stack that the last step meets holds obligations, and
each is resolved once. It is discharged exactly if the last step does not go back past it, from the
top to the builder of a lower obligation. If it does, the obligation is violated as escaped at the
last step, unless the chain is exempt from checks. -/
theorem Index.terminal_end_discharges (index : Index) (chain : Chain) {memo later : Memo}
    (kept : later.Extends (index.run (chain.obligations index.markers) memo).2) {last : Step}
    (isLast : chain.steps.getLast? = some last)
    (terminal : (index.view later).isTerminal last.method = true) {tracked : Tracked}
    (met : chain.stackAt (index.view later) index.markers (chain.steps.length - 1) = some tracked) :
    let view := index.view later
    let markers := index.markers
    (chain.tracked view markers).map Prod.snd = (index.run (chain.obligations markers) memo).1 ∧
    ∀ number, tracked.Holds number → ∃ obligation,
      (chain.tracked view markers).filter (fun entry => entry.1 = number) = [(number, obligation)] ∧
      (obligation.outcome = .discharged ↔
        ∀ move, Chain.move? view markers last = some move → number ∉ tracked.between move.type) ∧
      (obligation.outcome ≠ .discharged → obligation.outcome =
        if chain.suppressed then .suppressed chain.context.usage
        else .violated .escape (some last.expr)) := by
  intro view markers
  refine ⟨?_, fun number holds => ?_⟩
  · rw [chain.tracked_snd, index.run_eq_runWith _ kept]
  obtain ⟨course, found, reached⟩ := Option.bind_eq_some_iff.mp met
  have followed := Chain.follows found
  obtain ⟨inside, rfl⟩ := Course.stackAt_eq_some.mp reached
  have listed : chain.steps[chain.steps.length - 1]? = some last := by
    rw [← List.getLast?_eq_getElem?, isLast]
  have terminated : course.terminated = true := by
    rw [followed.terminated, isLast]
    exact terminal
  have moved : Chain.move? view markers last = course.moves[chain.steps.length - 1]? := by
    rw [← followed.moved _ inside, listed, Option.bind_some]
  have within := followed.within
  have behind : chain.steps.length - 1 < chain.steps.length := (List.getElem?_eq_some_iff.mp listed).1
  have isOpen := (Course.openAt_iff inside).mpr holds
  obtain ⟨obligation, member⟩ := Course.exists_tracked chain.context
    ((chain.context.accepts index.markers.decls).runWith (index.view later)) isOpen
  refine ⟨chain.excuse obligation, ?_, ?_⟩
  · rw [followed.tracked_eq, List.filter_map]
    simp only [Function.comp_def, course.number_unique _ _ member, List.map_cons, List.map_nil]
  · rw [Ne, Chain.excuse_discharged, moved]
    rcases Nat.lt_or_eq_of_le inside with before | all
    · -- The last step is a move, so the walk comes to its end behind it.
      have length : course.moves.length = chain.steps.length - 1 + 1 := by omega
      rw [List.getElem?_eq_getElem before] at moved ⊢
      have calls : course.moves[chain.steps.length - 1].terminal = true := by
        rw [Chain.terminal_move? view markers moved]
        exact terminal
      obtain ⟨discharged, lost⟩ :=
        Course.verdict_at_last followed.fresh terminated length calls isOpen member
      rw [Chain.node_move? view markers moved] at lost
      simp only [Option.some.injEq, forall_eq']
      exact ⟨discharged, fun undischarged => Chain.excuse_violated (lost undischarged)⟩
    · -- The last step yields no builder and ends the walk.
      have discharged : obligation.outcome = .discharged :=
        (Course.verdict followed.fresh member).1.mpr (Or.inr (Or.inl ⟨all ▸ isOpen, terminated⟩))
      simp [discharged, all]

namespace Sample

/-- In `x.Second().Third().Done()` the last step leads from the third builder back to the first, whose
obligation is discharged. -/
theorem nestedChain_completes_first :
    nestedChain.steps.getLast? = some lastStep ∧ nestedView.isTerminal lastStep.method = true ∧
      nestedChain.OpenAt nestedView nested.build.index.markers 2 0 ∧
      ∃ obligation ∈ nestedRun.1, obligation.start = 0 ∧ obligation.outcome = .discharged := by
  have terminal : nestedView.isTerminal lastStep.method = true := by decide +kernel
  have isOpen : nestedChain.OpenAt nestedView nested.build.index.markers 2 0 := by decide +kernel
  have first : ∀ entry ∈ nestedChain.tracked nestedView nested.build.index.markers,
      entry.1 = 0 → entry.2.start = 0 := by decide +kernel
  have spared : (nestedChain.stackAt nestedView nested.build.index.markers 2).all (fun tracked =>
      (Chain.move? nestedView nested.build.index.markers lastStep).all fun move =>
        0 ∉ tracked.between move.type) = true := by decide +kernel
  obtain ⟨tracked, met, holds⟩ := isOpen
  obtain ⟨same, judged⟩ := @Index.terminal_end_discharges nested.build.index nestedChain
    nested.build.memo nestedRun.2 (Memo.Extends.refl _) lastStep rfl terminal tracked met
  obtain ⟨obligation, unique, discharged, -⟩ := judged 0 holds
  have member : (0, obligation) ∈ nestedChain.tracked nestedView nested.build.index.markers := by
    have listed : (0, obligation) ∈ [(0, obligation)] := List.mem_singleton_self _
    rw [← unique] at listed
    exact (List.mem_filter.mp listed).1
  rw [met, Option.all_some] at spared
  refine ⟨rfl, terminal, ⟨tracked, met, holds⟩, obligation, same ▸ List.mem_map.mpr ⟨_, member, rfl⟩,
    first _ member rfl, discharged.mpr fun move moved => ?_⟩
  change Chain.move? nestedView nested.build.index.markers lastStep = some move at moved
  rw [moved, Option.all_some] at spared
  exact of_decide_eq_true spared

/-- The last step of the chain calls a terminal method and meets the obligations of all three builders,
but that of the second is violated. -/
theorem nestedChain_loses_second :
    nestedView.isBuilder nested.build.index.decls nestedChain.root.type = true ∧
      nestedChain.steps.getLast? = some lastStep ∧ nestedView.isTerminal lastStep.method = true ∧
      nestedChain.OpenAt nestedView nested.build.index.markers 2 1 ∧
      ∃ obligation ∈ nestedRun.1, obligation.outcome.state = .violated ∧
        (1, obligation) ∈ nestedChain.tracked nestedView nested.build.index.markers := by
  refine ⟨by decide +kernel, rfl, by decide +kernel, by decide +kernel, ?_⟩
  have second : ∃ entry ∈ nestedChain.tracked nestedView nested.build.index.markers,
      entry.1 = 1 ∧ entry.2 ∈ nestedRun.1 ∧ entry.2.outcome.state = .violated := by
    decide +kernel
  obtain ⟨⟨number, obligation⟩, member, rfl, returned, violated⟩ := second
  exact ⟨obligation, returned, violated, member⟩

end Sample

end Fluent
