import Fluent.Proofs.Analyzer.Messages
import Fluent.Proofs.Obligation.Opening

/-! The messages of obligations.

An obligation has the message with which it has been opened. If that is empty, it adopts the first
message that is not, among those of the steps by which it moves on from stage to stage. It takes
nothing from other obligations. As long as a chain goes through stages it has one obligation. -/

set_option autoImplicit false

namespace Fluent

open Inquiry (View)

/-- The first message that is not empty, if there is one. -/
def firstWording (wordings : List Text.Bytes) : Text.Bytes :=
  (wordings.find? fun wording => !wording.isEmpty).getD []

theorem firstWording_singleton (wording : Text.Bytes) : firstWording [wording] = wording := by
  cases wording <;> rfl

theorem firstWording_concat (wordings : List Text.Bytes) (last : Text.Bytes) :
    firstWording (wordings ++ [last]) =
      if (firstWording wordings).isEmpty then last else firstWording wordings := by
  induction wordings with
  | nil => exact firstWording_singleton last
  | cons wording wordings ih =>
    cases wording with
    | nil => exact ih
    | cons first rest => rfl

/-- The type of a numbered obligation, while it is open. -/
def Tracked.typeOf? (tracked : Tracked) (number : Nat) : Option NamedId :=
  (tracked.pending.find? fun entry => entry.1 = number).map fun entry => entry.2.type

/-- Does an obligation move on from its type by a step, where `trace` gives the stacks before the steps? -/
def movesOn (trace : Nat → Option Tracked) (count number : Nat) : Bool :=
  match (trace count).bind (·.typeOf? number), (trace (count + 1)).bind (·.typeOf? number) with
  | some before, some behind => before ≠ behind
  | _, _ => false

namespace Tracked

variable {tracked : Tracked} {number : Nat}

theorem typeOf?_eq_none (absent : ¬ tracked.Holds number) : tracked.typeOf? number = none := by
  rw [typeOf?, Option.map_eq_none_iff, List.find?_eq_none]
  intro entry member same
  exact absent (List.mem_map.mpr ⟨entry, member, by simpa using same⟩)

theorem typeOf?_eq_some (distinct : (tracked.pending.map Prod.fst).Nodup) {pending : Pending}
    (member : (number, pending) ∈ tracked.pending) : tracked.typeOf? number = some pending.type := by
  unfold typeOf?
  generalize tracked.pending = entries at distinct member
  induction entries with
  | nil => cases member
  | cons entry entries ih =>
    obtain ⟨absent, distinct⟩ := List.nodup_cons.mp distinct
    rcases List.mem_cons.mp member with rfl | member
    · simp
    · have other : ¬ entry.1 = number := fun same =>
        absent (List.mem_map.mpr ⟨_, member, by simp [same]⟩)
      rw [List.find?_cons_of_neg (by simpa using other)]
      exact ih distinct member

/-- A step keeps to a single obligation whose builder is a stage. -/
theorem Steps.single {next : Tracked} {move : Move} (took : Steps tracked move number next)
    (alone : tracked.below = []) (stage : tracked.top.2.facts.isStage = true) :
    next.closed = tracked.closed ∧ next.below = [] ∧ next.top.1 = tracked.top.1 ∧
      next.top.2.type = move.type ∧
      (next.top.2.facts = move.facts ∨
        move.type = tracked.top.2.type ∧ next.top.2.facts = tracked.top.2.facts) := by
  cases took with
  | stay same => exact ⟨rfl, alone, rfl, same.symm, Or.inr ⟨same, rfl⟩⟩
  | back above found rest differs below fits before =>
    rw [alone] at below
    cases List.nil_eq_append_iff.mp below |>.2
  | moveOn differs none _ => exact ⟨rfl, alone, rfl, rfl, Or.inl rfl⟩
  | replace differs none noStage reached =>
    rw [stage] at noStage
    cases noStage
  | push differs none noStage unreached =>
    rw [stage] at noStage
    cases noStage

end Tracked

namespace Course

variable (course : Course)

/-- The messages that an obligation can have after a number of moves, in the order in which they come
up: that of the move that has opened it, and those of the moves that have moved it on. -/
def wordings (count number : Nat) : List Text.Bytes :=
  (number :: ((List.range count).filter (movesOn course.stackAt · number)).map Nat.succ).map
    fun opener => (course.openings[opener]?.map Pending.message).getD []

variable {course} {count number : Nat}

theorem wordings_succ (count number : Nat) :
    course.wordings (count + 1) number =
      course.wordings count number ++
        if movesOn course.stackAt count number
        then [(course.openings[count + 1]?.map Pending.message).getD []] else [] := by
  simp only [wordings, List.range_succ, List.filter_append]
  cases moved : movesOn course.stackAt count number <;> simp [moved]

theorem movesOn_eq_false_of_absent {later : Nat} (inside : later ≤ course.moves.length)
    (absent : ¬ (course.after later).Holds number) (which : count = later ∨ count + 1 = later) :
    movesOn course.stackAt count number = false := by
  have none : (course.stackAt later).bind (·.typeOf? number) = none := by
    simp [stackAt, inside, Tracked.typeOf?_eq_none absent]
  unfold movesOn
  rcases which with rfl | rfl
  · rw [none]
  · rw [none]
    cases (course.stackAt count).bind (·.typeOf? number) <;> rfl

theorem movesOn_eq_false_of_end (beyond : course.moves.length ≤ count) :
    movesOn course.stackAt count number = false := by
  have ended : course.stackAt (count + 1) = none := if_neg (by omega)
  unfold movesOn
  rw [ended]
  cases (course.stackAt count).bind (·.typeOf? number) <;> rfl

theorem movesOn_eq (inside : count < course.moves.length) {before behind : Pending}
    (isOpen : (number, before) ∈ (course.after count).pending)
    (still : (number, behind) ∈ (course.after (count + 1)).pending) :
    movesOn course.stackAt count number = decide (before.type ≠ behind.type) := by
  have here : count ≤ course.moves.length := Nat.le_of_lt inside
  have next : count + 1 ≤ course.moves.length := inside
  simp [movesOn, stackAt, here, next, Tracked.typeOf?_eq_some (course.distinct_after _) isOpen,
    Tracked.typeOf?_eq_some (course.distinct_after _) still]

/-- An open obligation has the first message that has come up for it. -/
theorem message_of_open (inside : count ≤ course.moves.length) :
    ∀ entry ∈ (course.after count).pending, entry.2.message = firstWording (course.wordings count entry.1) := by
  induction count with
  | zero =>
    intro entry member
    have first : entry = (0, course.root) := List.mem_singleton.mp member
    rw [first]
    exact (firstWording_singleton course.root.message).symm
  | succ count ih =>
    have here : count < course.moves.length := inside
    intro entry member
    have still := member
    rw [course.after_succ here] at member
    rcases (Tracked.steps _ _ _).carries member with new | ⟨pending, reached, old, same⟩
    · -- Its number has just been given out, so it has not been moved on.
      have absent (earlier : Nat) (before : earlier ≤ count) :
          movesOn course.stackAt earlier (1 + count) = false :=
        movesOn_eq_false_of_absent (by omega) (not_holds_of_lt (by omega) (by omega)) (Or.inl rfl)
      have unmoved : (List.range (count + 1)).filter (movesOn course.stackAt · (1 + count)) = [] := by
        refine List.filter_eq_nil_iff.mpr fun earlier listed => ?_
        rw [absent earlier (Nat.le_of_lt_succ (List.mem_range.mp listed))]
        exact Bool.false_ne_true
      rw [new]
      simp only [wordings, unmoved, List.map_nil, List.map_cons, openings_succ here, Option.map_some,
        Option.getD_some]
      exact (firstWording_singleton _).symm
    · have kept : pending.message = firstWording (course.wordings count entry.1) :=
        ih (Nat.le_of_lt here) _ old
      rw [wordings_succ, movesOn_eq here old still]
      rcases same with same | ⟨-, -, differs, same⟩
      · rw [same, kept]
        simp
      · have moved : pending.type ≠ entry.2.type := by rwa [same]
        have opening := openings_succ here
        rw [Nat.add_comm] at opening
        rw [if_pos (decide_eq_true moved), opening, Option.map_some, Option.getD_some, firstWording_concat,
          ← kept, same]
        rfl

/-- No message comes up for an obligation once it is off the stack. -/
theorem wordings_of_gone {later : Nat} (order : count ≤ later) (inside : later ≤ course.moves.length)
    (gone : ∀ other ≤ course.moves.length, count < other → ¬ (course.after other).Holds number) :
    course.wordings later number = course.wordings count number := by
  induction order with
  | refl => rfl
  | @step later order ih =>
    have unmoved := movesOn_eq_false_of_absent inside (gone (later + 1) inside (Nat.lt_succ_of_le order))
      (Or.inr rfl)
    rw [wordings_succ, ih (Nat.le_of_lt inside), unmoved]
    simp

theorem message_of_lastOpen {pending : Pending} (lastOpen : course.LastOpen number pending) :
    pending.message = firstWording (course.wordings course.moves.length number) := by
  obtain ⟨count, inside, isOpen, gone⟩ := lastOpen
  rw [wordings_of_gone inside (Nat.le_refl _) gone]
  exact message_of_open inside _ isOpen

/-- An obligation moves on only while it is on top and its builder is a stage. -/
theorem stage_of_movesOn (moved : movesOn course.stackAt count number = true) :
    count < course.moves.length ∧ (course.after count).top.1 = number ∧
      (course.after count).top.2.facts.isStage = true := by
  have inside : count < course.moves.length := by
    refine Nat.lt_of_not_le fun beyond => ?_
    rw [movesOn_eq_false_of_end beyond] at moved
    cases moved
  have still : (course.after (count + 1)).Holds number := by
    refine Decidable.byContradiction fun absent => ?_
    rw [movesOn_eq_false_of_absent inside absent (Or.inr rfl)] at moved
    cases moved
  obtain ⟨entry, member, rfl⟩ := List.mem_map.mp still
  have next := member
  rw [course.after_succ inside] at next
  refine ⟨inside, ?_⟩
  rcases (Tracked.steps _ _ _).carries next with new | ⟨pending, reached, old, same⟩
  · -- What the step opens has not been open before.
    have absent : ¬ (course.after count).Holds entry.1 :=
      not_holds_of_lt (Nat.le_of_lt inside) (by simp [new, Nat.add_comm 1 count])
    rw [movesOn_eq_false_of_absent (Nat.le_of_lt inside) absent (Or.inl rfl)] at moved
    cases moved
  · rw [movesOn_eq inside old member] at moved
    rcases same with same | ⟨top, stage, -, -⟩
    · rw [same] at moved
      simp at moved
    · rw [← top]
      exact ⟨rfl, stage⟩

/-- As long as all types before the last are stages, there is one obligation, and it has come to the
last type. -/
theorem single_of_stages {known : NamedId → Option TypeFacts}
    (facts : ∀ opening ∈ course.openings, known opening.type = some opening.facts)
    (inside : count ≤ course.moves.length)
    (stages : ∀ opening ∈ course.openings.take count, opening.facts.isStage = true) :
    (course.after count).closed = [] ∧ (course.after count).below = [] ∧ (course.after count).top.1 = 0 ∧
      ∃ opening, course.openings[count]? = some opening ∧
        (course.after count).top.2.type = opening.type ∧
        (course.after count).top.2.facts = opening.facts := by
  induction count with
  | zero => exact ⟨rfl, rfl, rfl, course.root, rfl, rfl, rfl⟩
  | succ count ih =>
    have here : count < course.moves.length := inside
    obtain ⟨closed, below, root, opening, found, type, same⟩ := ih (Nat.le_of_lt here) fun other member =>
      stages other ((List.take_sublist_take_left (Nat.le_succ count)).subset member)
    have stage : (course.after count).top.2.facts.isStage = true := by
      obtain ⟨bound, isOpening⟩ := List.getElem?_eq_some_iff.mp found
      refine same ▸ stages opening ?_
      rw [List.take_succ_eq_append_getElem bound, isOpening]
      exact List.mem_append_right _ (List.mem_singleton_self _)
    have next := openings_succ here
    rw [Nat.add_comm] at next
    have took := (course.after count).steps course.moves[count] (1 + count)
    rw [← course.after_succ here] at took
    obtain ⟨sameClosed, alone, sameTop, moved, judged⟩ := took.single below stage
    refine ⟨sameClosed.trans closed, alone, sameTop.trans root, _, next, moved, ?_⟩
    rcases judged with judged | ⟨stays, judged⟩
    · exact judged
    · -- The builder is the same, and so are the facts about it.
      have old := facts opening (List.mem_of_getElem? found)
      have new := facts _ (List.mem_of_getElem? next)
      rw [← type, ← same, ← stays] at old
      exact judged.trans (Option.some.inj (old.symm.trans new))

end Course

/-- The message of the entry point that a step calls; empty if it calls none. -/
def Step.entryMessage (markers : Markers) (step : Step) : Text.Bytes :=
  (step.method.bind markers.entryPoint?).getD []

/-- Do fixed answers take a type for a stage of a sequence? -/
def Inquiry.View.isStage (view : View) (decls : Declarations) (type : Option Ty) : Bool :=
  ((Inquiry.factsOf decls type).runWith view).any TypeFacts.isStage

namespace Chain

variable (chain : Chain)

/-- The message of the root, and those of the entry points that the steps call. -/
def messages (markers : Markers) : List Text.Bytes :=
  chain.root.message :: chain.steps.map (Step.entryMessage markers)

/-- The types of the root and of what the steps yield. -/
def types : List (Option Ty) := chain.root.type :: chain.steps.map Step.result

/-- The messages that come up for an obligation: that of the root or of the step by which it has been
opened, and those of the steps by which it moves on. -/
def wordings (view : View) (markers : Markers) (number : Nat) : List Text.Bytes :=
  (number :: ((List.range chain.steps.length).filter
    (movesOn (chain.stackAt view markers) · number)).map Nat.succ).map
      fun opener => (chain.messages markers)[opener]?.getD []

variable {chain} {view : View} {markers : Markers} {course : Course} {number : Nat} {obligation : Obligation}

/-- The message of a move is that of the entry point, if only entry points have messages. -/
theorem message_move? (proper : ∀ func, (markers.of func).message ≠ [] → (markers.of func).kind = .entryPoint)
    {step : Step} {move : Move} (moved : move? view markers step = some move) :
    move.message = step.entryMessage markers := by
  rw [(move?_eq_some moved).2.2, Step.entryMessage]
  cases step.method with
  | none => rfl
  | some func =>
    simp only [Option.map_some, Option.getD_some, Option.bind_some, Markers.entryPoint?]
    split
    next => rfl
    next other => exact Decidable.byContradiction fun worded => other (proper func worded)

variable (followed : Follows view markers chain course)
include followed

/-- What the moves open has the type and the facts of what the steps yield. -/
theorem Follows.openings_cases {opening : Pending} (found : course.openings[number]? = some opening) :
    ∃ type, chain.types[number]? = some type ∧
      type.bind markers.decls.base? = some opening.type ∧
      (Inquiry.factsOf markers.decls type).runWith view = some opening.facts := by
  cases number with
  | zero =>
    obtain rfl : course.root = opening := Option.some.inj found
    obtain ⟨base, facts, -⟩ := course?_eq_some followed.found
    exact ⟨chain.root.type, rfl, base, facts⟩
  | succ count =>
    simp only [Course.openings, List.getElem?_cons_succ, List.getElem?_map, Option.map_eq_some_iff] at found
    obtain ⟨move, listed, rfl⟩ := found
    obtain ⟨step, isStep, moved⟩ := followed.step_of_move listed
    obtain ⟨base, facts, -⟩ := move?_eq_some moved
    exact ⟨step.result, by simp [types, isStep], base, facts⟩

theorem Follows.messages_eq
    (proper : ∀ func, (markers.of func).message ≠ [] → (markers.of func).kind = .entryPoint)
    (inside : number ≤ course.moves.length) :
    (chain.messages markers)[number]?.getD [] = (course.openings[number]?.map Pending.message).getD [] := by
  cases number with
  | zero =>
    obtain ⟨-, -, message, -⟩ := course?_eq_some followed.found
    exact message.symm
  | succ count =>
    have listed := List.getElem?_eq_getElem inside
    obtain ⟨step, isStep, moved⟩ := followed.step_of_move listed
    simp [Course.openings, messages, listed, isStep, Move.open, message_move? proper moved]

/-- The messages that come up along a chain are those of its course. -/
theorem Follows.wordings_eq
    (proper : ∀ func, (markers.of func).message ≠ [] → (markers.of func).kind = .entryPoint)
    (inside : number ≤ course.moves.length) :
    chain.wordings view markers number = course.wordings course.moves.length number := by
  -- Behind the last move nothing moves on.
  have moving : (List.range chain.steps.length).filter (movesOn course.stackAt · number) =
      (List.range course.moves.length).filter (movesOn course.stackAt · number) := by
    obtain ⟨rest, total⟩ := Nat.exists_eq_add_of_le followed.within
    have none : ((List.range rest).map (course.moves.length + ·)).filter
        (movesOn course.stackAt · number) = [] := by
      refine List.filter_eq_nil_iff.mpr fun count member => ?_
      obtain ⟨offset, -, rfl⟩ := List.mem_map.mp member
      rw [Course.movesOn_eq_false_of_end (Nat.le_add_right _ _)]
      exact Bool.false_ne_true
    rw [total, List.range_add, List.filter_append, none, List.append_nil]
  rw [wordings, Course.wordings, followed.trace_eq, moving]
  refine List.map_congr_left fun opener member => followed.messages_eq proper ?_
  rcases List.mem_cons.mp member with rfl | member
  · exact inside
  · obtain ⟨count, listed, rfl⟩ := List.mem_map.mp member
    exact List.mem_range.mp (List.mem_filter.mp listed).1

/-- A resolved obligation has the first message that has come up for it along the chain. -/
theorem Follows.message_eq
    (proper : ∀ func, (markers.of func).message ≠ [] → (markers.of func).kind = .entryPoint)
    (member : (number, obligation) ∈ chain.tracked view markers) :
    obligation.message = firstWording (chain.wordings view markers number) := by
  obtain ⟨course', pending, found, lastOpen, -, message⟩ := lastOpen_of_tracked member
  obtain rfl : course = course' := Option.some.inj (followed.found.symm.trans found)
  have opened := (followed.anchor member).2.1
  rw [message, followed.wordings_eq proper (followed.openAt_iff.mp opened).inside]
  exact Course.message_of_lastOpen lastOpen

theorem Follows.stage_of_movesOn {count : Nat}
    (moved : movesOn (chain.stackAt view markers) count number = true) :
    ∃ tracked, chain.stackAt view markers count = some tracked ∧ tracked.top.1 = number ∧
      tracked.top.2.facts.isStage = true := by
  rw [followed.trace_eq] at moved ⊢
  obtain ⟨inside, top, stage⟩ := Course.stage_of_movesOn moved
  exact ⟨_, Course.stackAt_eq_some.mpr ⟨Nat.le_of_lt inside, rfl⟩, top, stage⟩

theorem Follows.single_of_stages {count : Nat} {tracked : Tracked}
    (met : chain.stackAt view markers count = some tracked)
    (stages : ∀ type ∈ chain.types.take count, view.isStage markers.decls type = true) :
    tracked.closed = [] ∧ tracked.pending.map Prod.fst = [0] := by
  rw [followed.stackAt] at met
  obtain ⟨inside, rfl⟩ := Course.stackAt_eq_some.mp met
  have known : ∀ opening ∈ course.openings, view (.facts opening.type) = some opening.facts := by
    intro opening member
    obtain ⟨place, found⟩ := List.getElem?_of_mem member
    obtain ⟨type, -, base, facts⟩ := followed.openings_cases found
    rw [← (Inquiry.asked_factsOf view base).2, facts]
  have staged : ∀ opening ∈ course.openings.take count, opening.facts.isStage = true := by
    intro opening member
    obtain ⟨place, found⟩ := List.getElem?_of_mem member
    rw [List.getElem?_take] at found
    split at found
    next before =>
      obtain ⟨type, listed, -, facts⟩ := followed.openings_cases found
      have stage := stages type (List.mem_of_getElem? (by rw [List.getElem?_take, if_pos before, listed]))
      rw [Inquiry.View.isStage, facts] at stage
      exact stage
    next => cases found
  obtain ⟨closed, below, root, -⟩ :=
    @Course.single_of_stages course count (fun id => view (.facts id)) known inside staged
  exact ⟨closed, by simp [Tracked.pending, below, root]⟩

/-- If the walk ends while there is a single obligation, it is the only one that is returned. -/
theorem Follows.numbers_of_single {count : Nat} {tracked : Tracked}
    (met : chain.stackAt view markers count = some tracked)
    (ends : chain.stackAt view markers (count + 1) = none)
    (single : tracked.closed = [] ∧ tracked.pending.map Prod.fst = [0]) :
    (chain.tracked view markers).map Prod.fst = [0] := by
  rw [followed.stackAt] at met ends
  obtain ⟨-, last⟩ := Course.last_of_stackAt met ends
  rw [followed.numbers_tracked, last, Tracked.numbers, single.1, single.2]
  rfl

end Chain

/-- Messages follow the obligations that own them. A chain whose root is a builder returns one
obligation of the root, where the root is shown, and obligations that steps have opened, where these
are shown. Each has its own message: that of the root, or of the entry point called by the step that
has opened it, if it is not empty, and else the first that is not empty among those of the entry points
called by the steps by which the obligation has moved on. It moves on only from a stage, and while it
is on top. As long as all types before the last are stages, the root's obligation is the only one. -/
theorem IndexInput.messages_follow_obligations (input : IndexInput) (valid : input.rules.errors = [])
    (exported : input.program.HandsOn input.handedOn) (chain : Chain) {memo later : Memo}
    (kept : later.Extends (input.build.index.run (chain.obligations input.markers) memo).2)
    (builder : (input.build.index.view later).isBuilder input.program.decls chain.root.type = true) :
    let view := input.build.index.view later
    let returned := chain.tracked view input.markers
    let trace := chain.stackAt view input.markers
    returned.map Prod.snd = (input.build.index.run (chain.obligations input.markers) memo).1 ∧
    (∀ count tracked, trace count = some tracked →
      ∃ course, (chain.course? input.markers).runWith view = some course ∧
        tracked.stack = (course.moves.take count).foldl Stack.step (.start course.root)) ∧
    (∃ root, returned.filter (fun entry => entry.1 = 0) = [(0, root)] ∧
      root.start = chain.root.expr.start ∧ root.stop = chain.root.expr.stop) ∧
    (∀ count obligation, (count + 1, obligation) ∈ returned → ∃ step, chain.steps[count]? = some step ∧
      obligation.start = step.start ∧ obligation.stop = step.stop ∧
      ¬ chain.OpenAt view input.markers count (count + 1) ∧
      chain.OpenAt view input.markers (count + 1) (count + 1)) ∧
    (∀ number obligation, (number, obligation) ∈ returned →
      obligation.message = firstWording (chain.wordings view input.markers number)) ∧
    (∀ count number, movesOn trace count number = true → ∃ tracked, trace count = some tracked ∧
      tracked.top.1 = number ∧ tracked.top.2.facts.isStage = true) ∧
    ∀ count tracked, trace count = some tracked →
      (∀ type ∈ chain.types.take count, view.isStage input.program.decls type = true) →
      tracked.closed = [] ∧ tracked.pending.map Prod.fst = [0] ∧
        (trace (count + 1) = none → returned.map Prod.fst = [0]) := by
  intro view returned trace
  obtain ⟨course, found, -⟩ := chain.runWith_course? view input.markers builder
  have followed := Chain.follows found
  have proper := input.entryPoint_of_message valid exported
  refine ⟨?_, fun count tracked => Chain.stack_of_stackAt, ?_, ?_,
    fun number obligation => followed.message_eq proper, fun count number => followed.stage_of_movesOn, ?_⟩
  · rw [chain.tracked_snd, input.build.index.run_eq_runWith _ kept]
  · obtain ⟨root, once⟩ := followed.resolved_once followed.root_open
    have member : (0, root) ∈ returned.filter (fun entry => entry.1 = 0) := by
      rw [once]
      exact List.mem_singleton_self _
    obtain ⟨anchor, -⟩ := followed.anchor (List.mem_filter.mp member).1
    obtain ⟨start, stop⟩ := Prod.mk.inj (Option.some.inj anchor)
    exact ⟨root, once, start.symm, stop.symm⟩
  · intro count obligation member
    obtain ⟨anchor, opened, unopened⟩ := followed.anchor member
    simp only [Chain.anchors, List.getElem?_cons_succ, List.getElem?_map, Option.map_eq_some_iff] at anchor
    obtain ⟨step, listed, span⟩ := anchor
    obtain ⟨start, stop⟩ := Prod.mk.inj span
    exact ⟨step, listed, start.symm, stop.symm, unopened count (Nat.lt_succ_self count), opened⟩
  · intro count tracked met stages
    have single := followed.single_of_stages met stages
    exact ⟨single.1, single.2, fun ends => followed.numbers_of_single met ends single⟩

namespace Sample

/-- The statement `New().Query()`, which goes from a step to a query. -/
def queriedChain : Chain :=
  { root := { kind := .entryPoint, expr := { kind := .callExpr, start := 0, stop := 5 },
              type := some (.plain 2), func := some 3, message := [] }
    steps := [{ expr := { kind := .callExpr, start := 0, stop := 13 }
                sel := ⟨⟨6, 11, none⟩, "Query", some 2, none⟩
                method := some 2
                result := some (.plain 4) }]
    outer := { kind := .callExpr, start := 0, stop := 13 }
    context := { usage := .statement, type := none, node := { kind := .exprStmt, start := 0, stop := 13 } }
    suppressed := false }

def queriedRun : List Obligation × Memo :=
  strayedInput.build.index.run (queriedChain.obligations strayedInput.markers) strayedInput.build.memo

/-- The entry point `New` has no message. Its obligation moves on to the query, and adopts the message
of `Query`. -/
theorem queriedChain_adopts_message :
    strayedInput.rules.errors = [] ∧ strayedInput.program.HandsOn strayedInput.handedOn ∧
      (strayedInput.build.index.view queriedRun.2).isBuilder strayedInput.program.decls
        queriedChain.root.type = true ∧
      ∃ obligation, queriedRun.1 = [obligation] ∧ obligation.start = 0 ∧ obligation.stop = 5 ∧
        obligation.message = .ofString "run the query" := by
  have exported : strayedInput.program.HandsOn strayedInput.handedOn := fun _ member => nomatch member
  have builder : (strayedInput.build.index.view queriedRun.2).isBuilder strayedInput.program.decls
      queriedChain.root.type = true := by decide +kernel
  have wordings : queriedChain.wordings (strayedInput.build.index.view queriedRun.2) strayedInput.markers 0 =
      [[], Text.Bytes.ofString "run the query"] := by decide +kernel
  have stage : ∀ type ∈ queriedChain.types.take 1,
      (strayedInput.build.index.view queriedRun.2).isStage strayedInput.program.decls type = true := by
    decide +kernel
  have walk : (queriedChain.stackAt (strayedInput.build.index.view queriedRun.2) strayedInput.markers 1).isSome ∧
      (queriedChain.stackAt (strayedInput.build.index.view queriedRun.2) strayedInput.markers 2).isNone := by
    decide +kernel
  obtain ⟨same, -, ⟨root, once, start, stop⟩, -, messages, -, single⟩ :=
    @IndexInput.messages_follow_obligations strayedInput rfl exported queriedChain strayedInput.build.memo
      queriedRun.2 (Memo.Extends.refl _) builder
  obtain ⟨tracked, met⟩ := Option.isSome_iff_exists.mp walk.1
  have numbers := (single 1 tracked met stage).2.2 (Option.isNone_iff_eq_none.mp walk.2)
  obtain ⟨entry, alone, number⟩ := List.map_eq_singleton_iff.mp numbers
  rw [alone, List.filter_cons_of_pos (by simp [number])] at once
  obtain rfl : entry = (0, root) := (List.cons.inj once).1
  rw [alone] at same messages
  refine ⟨rfl, exported, builder, root, same.symm, start, stop, ?_⟩
  rw [messages 0 root (List.mem_singleton_self _), wordings]
  rfl

end Sample

end Fluent
