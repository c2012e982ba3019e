import Fluent.Index.Build
import Fluent.Proofs.Index.Memo
import Fluent.Proofs.Obligation.Lifetime

/-! The verdict on each obligation of a chain.

An obligation is discharged if a terminal method is called on its builder while it is on top, or
if it is left on the stack and the chain ends in a terminal method or in a context that takes the
builder over. Else it is lost: at the step that takes it off the stack, or in the context. -/

set_option autoImplicit false

namespace Fluent

open Inquiry (View)

/-- Does a context take over the builder that it gets? It does if the value is stored or used in
some other way, or goes where a builder is expected or nothing is known about what is. A function
has to go where one is expected that yields a builder, or where no function is. -/
def Context.TakesOver (view : View) (decls : Declarations) (context : Context) : Prop :=
  match context.usage with
  | .assignment | .other => True
  | .argument | .returned | .closure =>
    ∀ type, context.type = some type → view.isBuilder decls (some type) = true
  | .reference =>
    ∀ type, context.type = some type → ∀ signature, decls.underlying type = .func signature →
      view.isBuilder decls signature.result? = true
  | .statement | .escape => False

theorem Context.accepts_iff (view : View) (decls : Declarations) (context : Context) :
    (context.accepts decls).runWith view = true ↔ context.TakesOver view decls := by
  unfold accepts TakesOver
  cases context.usage with
  | statement | escape | assignment | other => simp
  | argument | returned | closure => cases context.type <;> simp
  | reference =>
    cases context.type with
    | none => simp
    | some type => cases form : decls.underlying type <;> simp [form]

namespace Course

variable {course : Course} {context : Context} {accepts : Bool} {number : Nat} {obligation : Obligation}

theorem remaining_of_finished (finished : course.ending = .finished) :
    course.remaining = course.last.pending.map Prod.snd := by
  rw [remaining, last, finished]
  simp only
  rw [← Tracked.pending_stack, stack_numbered]

/-- It makes no difference that the context is asked only if an obligation depends on it. -/
theorem tracked_asked (course : Course) (context : Context) (accepts : Bool) :
    course.tracked context (course.remaining.any course.asksContext && accepts) =
      course.tracked context accepts := by
  unfold tracked
  congr 1
  apply List.map_congr_left
  intro entry member
  congr 1
  unfold settle
  cases ending : course.ending with
  | consumed terminal node => rfl
  | finished =>
    cases asks : course.asksContext entry.2 with
    | false => simp
    | true =>
      have some : course.remaining.any course.asksContext = true := by
        rw [remaining_of_finished ending, List.any_eq_true]
        exact ⟨entry.2, List.mem_map.mpr ⟨entry, member, rfl⟩, asks⟩
      simp [some]

theorem closed_last (course : Course) : course.last.closed = (course.after course.moves.length).closed := by
  rw [after_all]
  unfold last
  split <;> rfl

/-- What an obligation comes to that a move has closed. -/
theorem verdict_of_closed (fresh : course.root.reached = false)
    (member : (number, obligation) ∈ course.last.closed) :
    (¬ course.OpenAt course.moves.length number) ∧
    (obligation.outcome = .discharged ↔ course.Completed number) ∧
    ∃ step call, course.calls[step]? = some call ∧ course.OpenAt step number ∧
      ¬ course.OpenAt (step + 1) number ∧
      (obligation.outcome ≠ .discharged → obligation.outcome = .violated .escape (some call.2)) := by
  rw [closed_last] at member
  obtain ⟨step, before, call, taken, isOpen, gone, judged⟩ :=
    outcome_of_closed fresh (Nat.le_refl _) member
  refine ⟨fun again => ?_, ?_, step, call, taken, isOpen, gone, ?_⟩
  · have late := leaves_once isOpen gone again
    omega
  · rcases judged with ⟨completed, outcome⟩ | ⟨incomplete, outcome⟩
    · exact iff_of_true outcome completed
    · exact iff_of_false (by simp [outcome]) incomplete
  · intro undischarged
    rcases judged with ⟨-, outcome⟩ | ⟨-, outcome⟩
    · exact (undischarged outcome).elim
    · exact outcome

/-- What an obligation comes to that is open when the walk is over. -/
theorem verdict_of_open (fresh : course.root.reached = false) {entry : Nat × Pending}
    (member : entry ∈ course.last.pending) :
    course.OpenAt course.moves.length entry.1 ∧
    ((course.settle context accepts entry.2).outcome = .discharged ↔
      course.Completed entry.1 ∨ course.terminated = true ∨ course.ending = .finished ∧ accepts = true) ∧
    ((course.settle context accepts entry.2).outcome ≠ .discharged →
      (∃ terminal node, course.ending = .consumed terminal node ∧
        (course.settle context accepts entry.2).outcome = .violated .escape (some node)) ∨
      course.ending = .finished ∧
        (course.settle context accepts entry.2).outcome =
          .violated context.usage (some context.node)) := by
  obtain ⟨isOpen, reached⟩ := reached_last fresh member
  refine ⟨isOpen, ?_⟩
  rw [← reached]
  unfold settle
  cases ending : course.ending with
  | consumed terminal node =>
    cases terminated : course.terminated <;> cases noted : entry.2.reached <;>
      simp [Pending.close, Pending.resolve, noted]
  | finished =>
    cases terminated : course.terminated <;> cases noted : entry.2.reached <;> cases accepts <;>
      simp [asksContext, Pending.resolve, terminated, noted]

theorem consumed_call {terminal : Bool} {node : NodeRef} (ending : course.ending = .consumed terminal node) :
    course.calls[course.moves.length]? = some (terminal, node) := by
  simp [calls, ending]

/-- The verdict on an obligation, read off from the steps that the walk takes. -/
theorem verdict (fresh : course.root.reached = false)
    (member : (number, obligation) ∈ course.tracked context accepts) :
    (obligation.outcome = .discharged ↔
      course.Completed number ∨
      (course.OpenAt course.moves.length number ∧ course.terminated = true) ∨
      course.ending = .finished ∧ course.OpenAt course.moves.length number ∧ accepts = true) ∧
    (obligation.outcome ≠ .discharged →
      (∃ step call, course.calls[step]? = some call ∧ course.OpenAt step number ∧
        ¬ course.OpenAt (step + 1) number ∧ obligation.outcome = .violated .escape (some call.2)) ∨
      course.ending = .finished ∧ course.OpenAt course.moves.length number ∧
        obligation.outcome = .violated context.usage (some context.node)) := by
  rcases List.mem_append.mp member with closed | settled
  · obtain ⟨gone, judged, step, call, taken, isOpen, left, lost⟩ := verdict_of_closed fresh closed
    constructor
    · rw [judged]
      simp [gone]
    · intro undischarged
      exact Or.inl ⟨step, call, taken, isOpen, left, lost undischarged⟩
  · obtain ⟨entry, isPending, same⟩ := List.mem_map.mp settled
    obtain ⟨rfl, rfl⟩ := Prod.mk.inj same
    obtain ⟨isOpen, judged, lost⟩ := @verdict_of_open course context accepts fresh entry isPending
    constructor
    · rw [judged]
      simp [isOpen]
    · intro undischarged
      rcases lost undischarged with ⟨terminal, node, ending, outcome⟩ | ⟨ending, outcome⟩
      · -- The walk is over, so the step that ended it took the obligation off.
        refine Or.inl ⟨_, _, consumed_call ending, isOpen, fun again => ?_, outcome⟩
        have inside := again.inside
        omega
      · exact Or.inr ⟨ending, isOpen, outcome⟩

end Course

namespace Chain

variable (view : View) (markers : Markers)

/-- The steps of a chain fall into those that yield builders, and the rest behind the first that does
not. -/
theorem moves_split (steps : List Step) :
    let walk := (moves markers steps).runWith view
    ∃ taken rest, steps = taken ++ rest ∧ taken.map (move? view markers) = walk.1.map some ∧
      ((rest = [] ∧ walk.2 = .finished) ∨ ∃ step behind, rest = step :: behind ∧
        move? view markers step = none ∧ walk.2 = .consumed (view.isTerminal step.method) step.expr) := by
  induction steps with
  | nil => exact ⟨[], [], rfl, rfl, Or.inl ⟨rfl, rfl⟩⟩
  | cons step steps ih =>
    simp only [runWith_moves_cons]
    cases moved : move? view markers step with
    | none => exact ⟨[], step :: steps, rfl, rfl, Or.inr ⟨step, steps, rfl, moved, rfl⟩⟩
    | some move =>
      obtain ⟨taken, rest, rfl, moves, ending⟩ := ih
      exact ⟨step :: taken, rest, rfl, by simp [moved, moves], ending⟩

theorem node_move? {step : Step} {move : Move} (moved : move? view markers step = some move) :
    move.node = step.expr := by
  unfold move? at moved
  split at moved
  · cases moved
    rfl
  · cases moved

variable (chain : Chain)

/-- The numbered stack when a step of a chain, counted from zero, is about to be taken. Behind the
last step it is what is left. There is none where the walk is over. -/
def stackAt (count : Nat) : Option Tracked :=
  ((chain.course? markers).runWith view).bind fun course => course.stackAt count

/-- Is an obligation on the stack when a step is about to be taken? -/
def OpenAt (count number : Nat) : Prop :=
  ∃ tracked, chain.stackAt view markers count = some tracked ∧ tracked.Holds number

instance (count number : Nat) : Decidable (chain.OpenAt view markers count number) :=
  match found : chain.stackAt view markers count with
  | none => isFalse fun ⟨_, other, _⟩ => nomatch found.symm.trans other
  | some tracked =>
    decidable_of_iff (tracked.Holds number)
      ⟨fun holds => ⟨tracked, found, holds⟩,
        fun ⟨_, other, holds⟩ => Option.some.inj (found.symm.trans other) ▸ holds⟩

/-- Is a step taken while an obligation is on top? -/
def ActiveAt (step : Step) (number : Nat) : Prop :=
  ∃ count tracked, chain.steps[count]? = some step ∧ chain.stackAt view markers count = some tracked ∧
    tracked.top.1 = number

/-- Does a step take an obligation off the stack, or end the walk with it? -/
def LostAt (step : Step) (number : Nat) : Prop :=
  ∃ count, chain.steps[count]? = some step ∧ chain.OpenAt view markers count number ∧
    ¬ chain.OpenAt view markers (count + 1) number

/-- Is an obligation on the stack when the walk ends? -/
def LeftOpen (number : Nat) : Prop :=
  ∃ count, chain.OpenAt view markers count number ∧ chain.stackAt view markers (count + 1) = none

variable {view markers chain} {course : Course} {number : Nat}

/-- What a step calls, and where. -/
def call (view : View) (step : Step) : Bool × NodeRef := (view.isTerminal step.method, step.expr)

theorem call_of_moved {taken : List Step} {moves : List Move}
    (moved : taken.map (move? view markers) = moves.map some) :
    moves.map (fun move => (move.terminal, move.node)) = taken.map (call view) := by
  induction taken generalizing moves with
  | nil =>
    rw [List.map_eq_nil_iff.mp moved.symm]
    rfl
  | cons step taken ih =>
    cases moves with
    | nil => cases moved
    | cons move moves =>
      obtain ⟨first, rest⟩ := List.cons.inj moved
      rw [List.map_cons, List.map_cons, ih rest, call, terminal_move? view markers first,
        node_move? view markers first]

/-- How the course of a chain goes along its steps. -/
structure Follows (view : View) (markers : Markers) (chain : Chain) (course : Course) : Prop where
  found : (chain.course? markers).runWith view = some course
  fresh : course.root.reached = false
  terminated : course.terminated = view.isTerminal (chain.steps.getLast?.bind Step.method)
  within : course.moves.length ≤ chain.steps.length
  finished : course.ending = .finished ↔ course.moves.length = chain.steps.length
  moved : ∀ count ≤ course.moves.length,
    chain.steps[count]?.bind (move? view markers) = course.moves[count]?
  calls : course.calls = (chain.steps.take (course.moves.length + 1)).map (call view)

theorem follows (found : (chain.course? markers).runWith view = some course) :
    Follows view markers chain course := by
  have course := found
  simp only [course?, Inquiry.runWith_bind] at found
  split at found
  next base facts =>
    simp only [Inquiry.runWith_bind, Inquiry.runWith_pure, Inquiry.runWith_isTerminal] at found
    obtain ⟨taken, rest, split, moved, ending⟩ := moves_split view markers chain.steps
    generalize (moves markers chain.steps).runWith view = walk at found moved ending
    cases found
    have count : walk.1.length = taken.length := by
      simpa using congrArg List.length moved.symm
    refine ⟨course, rfl, rfl, ?_, ?_, fun step inside => ?_, ?_⟩
    · simp [split, count]
    · rcases ending with ⟨rfl, finished⟩ | ⟨step, behind, rfl, -, consumed⟩
      · exact iff_of_true finished (by simp [split, count])
      · exact iff_of_false (by simp [consumed]) (by simp [split, count])
    · rcases Nat.lt_or_eq_of_le inside with before | rfl
      · have listed := congrArg (·[step]?) moved
        simp only [List.getElem?_map, List.getElem?_eq_getElem before, Option.map_some] at listed
        obtain ⟨one, found, same⟩ := Option.map_eq_some_iff.mp listed
        rw [split, List.getElem?_append_left (count ▸ before), found, Option.bind_some, same,
          List.getElem?_eq_getElem before]
      · rw [List.getElem?_eq_none (Nat.le_refl _), split, count, List.getElem?_append_right (Nat.le_refl _)]
        rcases ending with ⟨rfl, -⟩ | ⟨step, behind, rfl, still, -⟩
        · simp
        · simpa using still
    · rw [Course.calls, call_of_moved moved, split, count, List.take_append,
        List.take_of_length_le (Nat.le_succ _), Nat.add_sub_cancel_left, List.map_append]
      rcases ending with ⟨rfl, finished⟩ | ⟨step, behind, rfl, -, consumed⟩
      · simp [finished]
      · simp [consumed, call]
  next => cases found

variable (followed : Follows view markers chain course) {count : Nat}
include followed

theorem Follows.calls_iff {called : Bool × NodeRef} : course.calls[count]? = some called ↔
    count ≤ course.moves.length ∧ ∃ step, chain.steps[count]? = some step ∧ call view step = called := by
  rw [followed.calls, List.getElem?_map, List.getElem?_take, Option.map_eq_some_iff]
  by_cases inside : count ≤ course.moves.length
  · simp [inside, Nat.lt_succ_of_le inside]
  · have beyond : ¬ count < course.moves.length + 1 := by omega
    simp [inside, beyond]

theorem Follows.stackAt : chain.stackAt view markers count = course.stackAt count := by
  simp [Chain.stackAt, followed.found]

theorem Follows.openAt_iff : chain.OpenAt view markers count number ↔ course.OpenAt count number := by
  simp only [OpenAt, Course.OpenAt, followed.stackAt]

theorem Follows.completed_iff : course.Completed number ↔
    ∃ step, chain.ActiveAt view markers step number ∧ view.isTerminal step.method = true := by
  constructor
  · rintro ⟨later, count, -, node, taken, top⟩
    obtain ⟨inside, step, listed, same⟩ := followed.calls_iff.mp taken
    refine ⟨step, ⟨count, _, listed, ?_, top⟩, (Prod.mk.inj same).1⟩
    rw [followed.stackAt, Course.stackAt_eq_some]
    exact ⟨inside, rfl⟩
  · rintro ⟨step, ⟨count, tracked, listed, found, top⟩, terminal⟩
    rw [followed.stackAt, Course.stackAt_eq_some] at found
    obtain ⟨inside, rfl⟩ := found
    refine ⟨count + 1, count, Nat.lt_succ_self count, step.expr, ?_, top⟩
    exact followed.calls_iff.mpr ⟨inside, step, listed, by rw [call, terminal]⟩

theorem Follows.leftOpen_iff : chain.LeftOpen view markers number ↔
    course.OpenAt course.moves.length number := by
  simp only [LeftOpen, followed.openAt_iff, followed.stackAt]
  constructor
  · rintro ⟨count, isOpen, ended⟩
    have inside := isOpen.inside
    have last : count = course.moves.length := by
      by_cases more : count + 1 ≤ course.moves.length
      · simp [Course.stackAt, more] at ended
      · omega
    exact last ▸ isOpen
  · intro isOpen
    exact ⟨_, isOpen, by simp [Course.stackAt]⟩

/-- What is open behind the last step has not been consumed by a step. -/
theorem Follows.openAt_end : chain.OpenAt view markers chain.steps.length number ↔
    course.ending = .finished ∧ course.OpenAt course.moves.length number := by
  rw [followed.openAt_iff, followed.finished]
  constructor
  · intro isOpen
    have same := Nat.le_antisymm followed.within isOpen.inside
    exact ⟨same, same ▸ isOpen⟩
  · rintro ⟨same, isOpen⟩
    exact same ▸ isOpen

theorem Follows.lost_of_call {called : Bool × NodeRef} (taken : course.calls[count]? = some called)
    (isOpen : course.OpenAt count number) (gone : ¬ course.OpenAt (count + 1) number) :
    ∃ step, chain.LostAt view markers step number ∧ called.2 = step.expr := by
  obtain ⟨-, step, listed, rfl⟩ := followed.calls_iff.mp taken
  refine ⟨step, ⟨count, listed, ?_, ?_⟩, rfl⟩
  · exact followed.openAt_iff.mpr isOpen
  · rwa [followed.openAt_iff]

/-- There is one step at which an obligation is lost. -/
theorem Follows.lost_once {first second : Step} (one : chain.LostAt view markers first number)
    (other : chain.LostAt view markers second number) : first = second := by
  obtain ⟨count, listed, isOpen, gone⟩ := one
  obtain ⟨later, selected, again, left⟩ := other
  rw [followed.openAt_iff] at isOpen gone again left
  have same : count = later :=
    Nat.le_antisymm (Course.leaves_once again left isOpen) (Course.leaves_once isOpen gone again)
  rw [same, selected] at listed
  exact (Option.some.inj listed).symm

/-- An obligation that is open behind the last step is not lost at a step. -/
theorem Follows.not_lost (isOpen : chain.OpenAt view markers chain.steps.length number) (step : Step) :
    ¬ chain.LostAt view markers step number := by
  rintro ⟨count, listed, before, gone⟩
  rw [followed.openAt_iff] at isOpen before gone
  have late := Course.leaves_once before gone isOpen
  have inside := (List.getElem?_eq_some_iff.mp listed).1
  omega

theorem Follows.tracked_eq : chain.tracked view markers =
    (course.tracked chain.context ((chain.context.accepts markers.decls).runWith view)).map
      fun entry => (entry.1, chain.excuse entry.2) := by
  simp only [tracked, followed.found, accepted, Course.tracked_asked]

omit followed in
theorem excuse_of_checked (checked : chain.suppressed = false) (obligation : Obligation) :
    chain.excuse obligation = obligation := by
  simp [excuse, checked]

end Chain

/-- The exact verdict. The obligations of a chain that is checked are judged as follows, with what
the index answers from then on. The numbered stack at a step is the stack that the moves before it
lead to. An obligation is discharged exactly if a terminal method is called
by a step that is taken while it is on top, or if it is on the stack when the walk ends and the last
step calls a terminal method, or if it is on the stack behind the last step and the context takes the
builder over. Else it is violated: as escaped at the step that takes it off the stack or ends the
walk, or, if there is none, in the usage of the chain and at its node. -/
theorem Index.verdict_on_obligations (index : Index) (chain : Chain) {memo later : Memo}
    (kept : later.Extends (index.run (chain.obligations index.markers) memo).2)
    (checked : chain.suppressed = false) :
    let view := index.view later
    let markers := index.markers
    (chain.tracked view markers).map Prod.snd = (index.run (chain.obligations markers) memo).1 ∧
    (∀ count tracked, chain.stackAt view markers count = some tracked →
      ∃ course, (chain.course? markers).runWith view = some course ∧
        tracked.stack = (course.moves.take count).foldl Stack.step (.start course.root)) ∧
    ∀ number obligation, (number, obligation) ∈ chain.tracked view markers →
      (obligation.outcome = .discharged ↔
        (∃ step, chain.ActiveAt view markers step number ∧ view.isTerminal step.method = true) ∨
        (chain.LeftOpen view markers number ∧
          view.isTerminal (chain.steps.getLast?.bind Step.method) = true) ∨
        (chain.OpenAt view markers chain.steps.length number ∧
          chain.context.TakesOver view index.decls)) ∧
      (obligation.outcome ≠ .discharged →
        (∀ step, chain.LostAt view markers step number →
          obligation.outcome = .violated .escape (some step.expr)) ∧
        ((¬ ∃ step, chain.LostAt view markers step number) →
          obligation.outcome = .violated chain.context.usage (some chain.context.node))) := by
  intro view markers
  refine ⟨?_, fun count tracked met => ?_, fun number obligation member => ?_⟩
  · rw [chain.tracked_snd, index.run_eq_runWith _ kept]
  · obtain ⟨course, found, reached⟩ := Option.bind_eq_some_iff.mp met
    exact ⟨course, found, Course.stack_of_stackAt reached⟩
  · cases found : (chain.course? markers).runWith view with
    | none => simp [Chain.tracked, found] at member
    | some course =>
      have followed := Chain.follows found
      simp only [followed.tracked_eq, Chain.excuse_of_checked checked, List.map_id'] at member
      obtain ⟨discharged, lost⟩ := Course.verdict followed.fresh member
      rw [Context.accepts_iff] at discharged
      constructor
      · rw [discharged, followed.completed_iff, followed.leftOpen_iff, followed.openAt_end,
          followed.terminated, and_assoc]
        rfl
      · intro undischarged
        rcases lost undischarged with ⟨count, called, taken, isOpen, gone, outcome⟩ | ⟨finished, isOpen, outcome⟩
        · obtain ⟨step, isLost, node⟩ := followed.lost_of_call taken isOpen gone
          rw [node] at outcome
          refine ⟨fun other alsoLost => ?_, fun none => (none ⟨step, isLost⟩).elim⟩
          rw [followed.lost_once alsoLost isLost, outcome]
        · have isOpen := followed.openAt_end.mpr ⟨finished, isOpen⟩
          exact ⟨fun step isLost => (followed.not_lost isOpen step isLost).elim, fun _ => outcome⟩

namespace Sample

/-- Three builders. `Second` leads from the first to the second, and `Third` from there to the third.
Each has a terminal method `Done`; the one of the third yields the first. -/
def nested : IndexInput :=
  { program :=
      { decls :=
          { packagePaths := ["app", "lib"]
            types := #[
              .declared { name := "A", package := some 1, underlying := 3, methods := [0, 3], typeParams := [] },
              .declared { name := "B", package := some 1, underlying := 3, methods := [1, 4], typeParams := [] },
              .declared { name := "C", package := some 1, underlying := 3, methods := [2], typeParams := [] },
              .literal (.struct (some 1) []),
              .literal (.func { params := [], results := [], variadic := false }),
              .literal (.func { params := [], results := [0], variadic := false }),
              .literal (.func { params := [], results := [1], variadic := false }),
              .literal (.func { params := [], results := [2], variadic := false })]
            functions := [
              { name := "Done", package := some 1, type := 4, receiver := some 0, typeParams := [],
                receiverParams := [] },
              { name := "Done", package := some 1, type := 4, receiver := some 1, typeParams := [],
                receiverParams := [] },
              { name := "Done", package := some 1, type := 5, receiver := some 2, typeParams := [],
                receiverParams := [] },
              { name := "Second", package := some 1, type := 6, receiver := some 0, typeParams := [],
                receiverParams := [] },
              { name := "Third", package := some 1, type := 7, receiver := some 1, typeParams := [],
                receiverParams := [] }] }
        packages := [{ imports := [1], scope := [], files := [] }, { imports := [], scope := [], files := [] }] }
    package := 0
    rules := .none
    handedOn :=
      [(0, { kind := .terminal, message := [] }), (1, { kind := .terminal, message := [] }),
        (2, { kind := .terminal, message := [] })]
    order := .asFound }

def stepTo (start stop : Nat) (name : String) (method : FuncId) (result : TypeId) : Step :=
  { expr := { kind := .callExpr, start := 0, stop }
    sel := ⟨⟨start, stop - 2, none⟩, name, some method, none⟩
    method := some method
    result := some (.plain result) }

def lastStep : Step := stepTo 19 25 "Done" 2 0

/-- The statement `x.Second().Third().Done()`. -/
def nestedChain : Chain :=
  { root := { kind := .operand, expr := { kind := .ident, start := 0, stop := 1 }, type := some (.plain 0),
              func := none, message := [] }
    steps := [stepTo 2 10 "Second" 3 1, stepTo 11 18 "Third" 4 2, lastStep]
    outer := { kind := .callExpr, start := 0, stop := 25 }
    context := { usage := .statement, type := none, node := { kind := .exprStmt, start := 0, stop := 25 } }
    suppressed := false }

def nestedRun : List Obligation × Memo :=
  nested.build.index.run (nestedChain.obligations nested.build.index.markers) nested.build.memo

/-- What the index answers once the chain has been judged. -/
def nestedView : View := nested.build.index.view nestedRun.2

/-- The second builder is off the stack before its own terminal method is called, so it is lost at
the step that goes back to the first. -/
theorem nestedChain_judged :
    nestedChain.suppressed = false ∧
      ∃ obligation ∈ nestedRun.1, obligation.start = 2 ∧
        obligation.outcome = .violated .escape (some lastStep.expr) := by
  obtain ⟨same, -, judged⟩ := @Index.verdict_on_obligations nested.build.index nestedChain nested.build.memo
    nestedRun.2 (Memo.Extends.refl _) rfl
  have second : ∃ entry ∈ nestedChain.tracked nestedView nested.build.index.markers,
      entry.1 = 1 ∧ entry.2.start = 2 ∧ entry.2.outcome ≠ .discharged := by
    decide +kernel
  obtain ⟨⟨number, obligation⟩, member, rfl, start, undischarged⟩ := second
  refine ⟨rfl, obligation, same ▸ List.mem_map.mpr ⟨_, member, rfl⟩, start, ?_⟩
  apply ((judged 1 obligation member).2 undischarged).1
  exact ⟨2, rfl, by decide +kernel, by decide +kernel⟩

end Sample

end Fluent
