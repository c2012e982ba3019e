import Fluent.Proofs.Obligation.Wording

/-! What holds of the stack between two steps of a chain.

The builders on the stack are all different, and the top is the one that the last step has yielded.
What is known about an entry is what the index says about its type. An entry that has another one
above it has terminal methods, none of which has been called. So there is at most one entry to
which a step can go back. -/

set_option autoImplicit false

namespace Fluent

open Inquiry (View)

namespace Tracked

/-- What steps preserve, where `known` gives what the index says about a type. -/
structure WellFormed (known : NamedId → Option TypeFacts) (tracked : Tracked) : Prop where
  distinct : (tracked.pending.map fun entry => entry.2.type).Nodup
  facts : ∀ entry ∈ tracked.pending, known entry.2.type = some entry.2.facts
  below : ∀ entry ∈ tracked.below, entry.2.facts.isStage = false ∧ entry.2.reached = false

variable {tracked next : Tracked} {move : Move} {number : Nat} {known : NamedId → Option TypeFacts}

theorem distinct_iff : (tracked.pending.map fun entry => entry.2.type).Nodup ↔
    (tracked.below.map fun entry => entry.2.type).Nodup ∧
      ∀ entry ∈ tracked.below, entry.2.type ≠ tracked.top.2.type := by
  rw [pending, List.map_append, List.map_reverse, List.nodup_append, List.nodup_reverse]
  simp only [List.map_cons, List.map_nil, List.nodup_cons, List.not_mem_nil, not_false_eq_true, List.nodup_nil,
    and_self, true_and, List.mem_reverse, List.mem_singleton, forall_eq, List.forall_mem_map]

/-- The top has the type that the last step has yielded. -/
theorem Steps.top_type (took : Steps tracked move number next) : next.top.2.type = move.type := by
  cases took with
  | stay same => exact same.symm
  | back above found rest differs below fits before => exact fits
  | moveOn differs none stage => rfl
  | replace differs none noStage reached => rfl
  | push differs none noStage unreached => rfl

/-- Steps keep the types apart: a type that is on the stack already is not put there again. -/
theorem Steps.distinct (took : Steps tracked move number next)
    (distinct : (tracked.pending.map fun entry => entry.2.type).Nodup) :
    (next.pending.map fun entry => entry.2.type).Nodup := by
  rw [distinct_iff] at distinct ⊢
  obtain ⟨lower, top⟩ := distinct
  cases took with
  | stay same => exact ⟨lower, top⟩
  | back above found rest differs below fits before =>
    rw [below, List.map_append, List.map_cons] at lower
    obtain ⟨apart, rest⟩ := List.nodup_cons.mp (List.nodup_append.mp lower).2.1
    exact ⟨rest, fun entry member same => apart (List.mem_map.mpr ⟨entry, member, same⟩)⟩
  | moveOn differs none stage => exact ⟨lower, none⟩
  | replace differs none noStage reached => exact ⟨lower, none⟩
  | push differs none noStage unreached =>
    -- The old top joins the entries below, which differ from it and from the new one.
    refine ⟨List.nodup_cons.mpr ⟨fun member => ?_, lower⟩, List.forall_mem_cons.mpr ⟨differs.symm, none⟩⟩
    obtain ⟨entry, member, same⟩ := List.mem_map.mp member
    exact top entry member same

/-- Nothing is put above a stage. -/
theorem Steps.no_stage_below (took : Steps tracked move number next)
    (declared : ∀ entry ∈ tracked.below, entry.2.facts.isStage = false) :
    ∀ entry ∈ next.below, entry.2.facts.isStage = false := by
  cases took with
  | stay same => exact declared
  | back above found rest differs below fits before =>
    exact fun entry member => declared entry (by rw [below]; simp [member])
  | moveOn differs none stage => exact declared
  | replace differs none noStage reached => exact declared
  | push differs none noStage unreached => exact List.forall_mem_cons.mpr ⟨noStage, declared⟩

theorem Steps.wellFormed (took : Steps tracked move number next) (wellFormed : tracked.WellFormed known)
    (facts : known move.type = some move.facts) : next.WellFormed known := by
  -- The messages of the entries do not matter here.
  have grounded : ∀ entry ∈ next.pending, known entry.2.type = some entry.2.facts ∧ True :=
    @Steps.grounds _ _ _ _ took (fun type facts => known type = some facts) (fun _ => True) facts trivial
      fun entry member => ⟨wellFormed.facts entry member, trivial⟩
  exact
    { distinct := took.distinct wellFormed.distinct
      facts := fun entry member => (grounded entry member).1
      below := fun entry member =>
        ⟨took.no_stage_below (fun entry member => (wellFormed.below entry member).1) entry member,
          took.quiet_below (fun entry member => (wellFormed.below entry member).2) entry member⟩ }

/-- The entry to which a step goes back is the only one with its type. -/
theorem WellFormed.found_alone (wellFormed : tracked.WellFormed known) {type : NamedId}
    {above rest : List Pending} {found : Pending}
    (split : Stack.splitAtFirst (fun pending => pending.type = type) tracked.stack.below =
      some (above, found, rest)) :
    tracked.stack.pending.filter (fun pending => pending.type = type) = [found] := by
  obtain ⟨below, fits, -⟩ := Stack.splitAtFirst_some split
  have member : found ∈ tracked.stack.pending := by simp [Stack.pending, below]
  have distinct : (tracked.stack.pending.map Pending.type).Nodup := by
    rw [pending_stack, List.map_map]
    exact wellFormed.distinct
  obtain rfl : found.type = type := by simpa using fits
  exact filter_eq_singleton distinct member

end Tracked

namespace Course

variable {course : Course} {count : Nat}

theorem wellFormed_after {known : NamedId → Option TypeFacts}
    (facts : ∀ opening ∈ course.openings, known opening.type = some opening.facts) :
    (course.after count).WellFormed known := by
  obtain ⟨root, moves⟩ := List.forall_mem_cons.mp facts
  refine Tracked.run_induction (fun _ tracked => tracked.WellFormed known) (course.moves.take count) ?_ ?_
  · intro number tracked move member wellFormed
    exact (tracked.steps move number).wellFormed wellFormed
      (moves _ (List.mem_map.mpr ⟨move, List.mem_of_mem_take member, rfl⟩))
  · exact
      { distinct := by simp [Tracked.start, Tracked.pending]
        facts := fun entry member => by rwa [List.mem_singleton.mp member]
        below := fun _ member => nomatch member }

theorem top_after (inside : count ≤ course.moves.length) :
    course.openings[count]?.map Pending.type = some (course.after count).top.2.type := by
  cases count with
  | zero => rfl
  | succ count =>
    have took := (course.after count).steps course.moves[count] (1 + count)
    rw [← course.after_succ inside] at took
    have opened := openings_succ inside
    rw [Nat.add_comm] at opened
    rw [opened, took.top_type]
    rfl

end Course

namespace Chain

variable {chain : Chain} {view : View} {markers : Markers} {course : Course} {count : Nat}

theorem isBuilder_of_move? {step : Step} {move : Move} (moved : move? view markers step = some move) :
    view.isBuilder markers.decls step.result = true := by
  rw [view.isBuilder_eq, (move?_eq_some moved).2.1]
  rfl

/-- The walk goes on as long as the steps yield builders. -/
theorem Follows.within_iff (followed : Follows view markers chain course) :
    count ≤ course.moves.length ↔
      count ≤ chain.steps.length ∧ ∀ step ∈ chain.steps.take count, view.isBuilder markers.decls step.result := by
  constructor
  · intro inside
    refine ⟨Nat.le_trans inside followed.within, fun step member => ?_⟩
    obtain ⟨place, listed⟩ := List.getElem?_of_mem member
    rw [List.getElem?_take] at listed
    split at listed
    next before =>
      have here : place < course.moves.length := Nat.lt_of_lt_of_le before inside
      have moved := followed.moved place (Nat.le_of_lt here)
      rw [listed, Option.bind_some, List.getElem?_eq_getElem here] at moved
      exact isBuilder_of_move? moved
    next => cases listed
  · rintro ⟨bound, builders⟩
    refine Nat.le_of_not_lt fun short => ?_
    -- The step at which the walk ends yields no builder.
    have moved := followed.moved course.moves.length (Nat.le_refl _)
    have here : course.moves.length < chain.steps.length := Nat.lt_of_lt_of_le short bound
    rw [List.getElem?_eq_getElem here, Option.bind_some, List.getElem?_eq_none (Nat.le_refl _)] at moved
    have builder := builders chain.steps[course.moves.length] (List.mem_take_iff_getElem.mpr
      ⟨course.moves.length, by omega, rfl⟩)
    have some := isSome_move? view markers builder
    rw [moved] at some
    cases some

theorem Follows.known_openings (followed : Follows view markers chain course) :
    ∀ opening ∈ course.openings, view (.facts opening.type) = some opening.facts := by
  intro opening member
  obtain ⟨place, found⟩ := List.getElem?_of_mem member
  obtain ⟨type, -, base, facts⟩ := followed.openings_cases found
  rw [← (Inquiry.asked_factsOf view base).2, facts]

/-- There is a stack before each step up to the first one that yields no builder, and behind that none. -/
theorem Follows.isSome_stackAt (followed : Follows view markers chain course) :
    (chain.stackAt view markers count).isSome = true ↔
      count ≤ chain.steps.length ∧ ∀ step ∈ chain.steps.take count, view.isBuilder markers.decls step.result := by
  rw [followed.stackAt, Course.stackAt, ← followed.within_iff]
  split <;> simp [*]

variable {tracked : Tracked}

/-- Between two steps the stack is well formed, its top is what the last step has yielded, and nothing on it is
closed. -/
theorem wellFormed_of_stackAt (met : chain.stackAt view markers count = some tracked) :
    tracked.WellFormed (fun type => view (.facts type)) ∧
      (chain.types[count]?.bind fun type => type.bind markers.decls.base?) = some tracked.top.2.type ∧
      ∀ entry ∈ tracked.pending, entry.1 ∉ tracked.closed.map Prod.fst := by
  obtain ⟨course, found, reached⟩ := Option.bind_eq_some_iff.mp met
  obtain ⟨inside, rfl⟩ := Course.stackAt_eq_some.mp reached
  have followed := follows found
  refine ⟨Course.wellFormed_after followed.known_openings, ?_, fun entry member closed => ?_⟩
  · obtain ⟨opening, listed, same⟩ := Option.map_eq_some_iff.mp (Course.top_after inside)
    obtain ⟨type, isType, base, -⟩ := followed.openings_cases listed
    rw [isType, Option.bind_some, base, same]
  · obtain ⟨⟨number, obligation⟩, listed, rfl⟩ := List.mem_map.mp closed
    exact Course.not_open_of_closed listed (Tracked.holds_of_mem member)

/-- What has been asked before a step is taken: the facts of the root, whether the last method is terminal,
and what the steps before it yield. -/
def questionsBefore (markers : Markers) (chain : Chain) (count : Nat) : Inquiry (Option TypeFacts × List Move) := do
  let facts ← Inquiry.factsOf markers.decls chain.root.type
  let _ ← Inquiry.isTerminal (chain.steps.getLast?.bind Step.method)
  let (moves, _) ← moves markers (chain.steps.take count)
  return (facts, moves)

/-- The stack before a step, from the answers that have been given by then. -/
def stackFrom (markers : Markers) (chain : Chain) (count : Nat) (answers : Option TypeFacts × List Move) :
    Option Tracked :=
  match chain.root.type.bind markers.decls.base?, answers with
  | some type, (some facts, moves) =>
    let root : Pending :=
      { start := chain.root.expr.start
        stop := chain.root.expr.stop
        type
        facts
        message := chain.root.message
        reached := false }
    if count = moves.length then some ((Tracked.start root).run (moves.zipIdx 1)) else none
  | _, _ => none

theorem runWith_moves_take (steps : List Step) (count : Nat) :
    ((moves markers (steps.take count)).runWith view).1 = ((moves markers steps).runWith view).1.take count := by
  induction steps generalizing count with
  | nil => simp [moves]
  | cons step steps ih =>
    cases count with
    | zero => simp [moves]
    | succ count =>
      rw [List.take_succ_cons, runWith_moves_cons, runWith_moves_cons]
      cases move? view markers step with
      | none => rfl
      | some move => simp [ih]

/-- The stack before a step depends on nothing that is asked later. -/
theorem stackAt_eq_stackFrom : chain.stackAt view markers count =
    chain.stackFrom markers count ((chain.questionsBefore markers count).runWith view) := by
  simp only [Chain.stackAt, course?, stackFrom, questionsBefore, Inquiry.runWith_bind, Inquiry.runWith_pure,
    runWith_moves_take]
  cases chain.root.type.bind markers.decls.base? with
  | none => rfl
  | some type =>
    cases (Inquiry.factsOf markers.decls chain.root.type).runWith view with
    | none => rfl
    | some facts =>
      -- The first moves are as many as asked for unless the walk has ended before.
      have inside (moves : List Move) : count = (moves.take count).length ↔ count ≤ moves.length := by
        rw [List.length_take]
        omega
      simp only [Inquiry.runWith_bind, Inquiry.runWith_pure, Option.bind_some, Course.stackAt, inside]
      rfl

theorem stackAt_congr {other : View} (same : (chain.questionsBefore markers count).runWith other =
    (chain.questionsBefore markers count).runWith view) :
    chain.stackAt other markers count = chain.stackAt view markers count := by
  rw [stackAt_eq_stackFrom, stackAt_eq_stackFrom, same]

end Chain

namespace Index

variable (index : Index)

theorem run_moves_take_extends (markers : Markers) (steps : List Step) (count : Nat) (memo : Memo) :
    Memo.Extends (index.run (Chain.moves markers steps) memo).2
      (index.run (Chain.moves markers (steps.take count)) memo).2 := by
  induction steps generalizing count memo with
  | nil =>
    rw [List.take_nil]
    exact Memo.Extends.refl _
  | cons step steps ih =>
    cases count with
    | zero => exact index.run_extends _ memo
    | succ count =>
      rw [List.take_succ_cons]
      -- Both runs ask the same about this step, and both end here or go on.
      simp only [Chain.moves, run_bind]
      generalize index.run (Inquiry.isTerminal step.method) memo = first
      generalize index.run (Inquiry.factsOf markers.decls step.result) first.2 = second
      cases step.result.bind markers.decls.base? with
      | none => exact Memo.Extends.refl _
      | some type =>
        cases second.1 with
        | none => exact Memo.Extends.refl _
        | some facts =>
          simp only [run_bind, run_pure]
          exact ih count second.2

/-- The memo before a step of a chain is taken. -/
def memoBefore (chain : Chain) (memo : Memo) (count : Nat) : Memo :=
  (index.run (chain.questionsBefore index.markers count) memo).2

/-- What has been asked before a step is asked in the whole run. -/
theorem run_course?_extends {chain : Chain} {memo later : Memo} (count : Nat)
    (kept : later.Extends (index.run (chain.course? index.markers) memo).2)
    (builder : (index.view later).isBuilder index.decls chain.root.type = true) :
    later.Extends (index.memoBefore chain memo count) := by
  obtain ⟨type, facts, base, known⟩ := Chain.base?_of_isBuilder _ index.markers builder
  have first : later.Extends (index.run (Inquiry.factsOf index.markers.decls chain.root.type) memo).2 := by
    refine kept.trans ?_
    rw [Chain.course?, run_bind]
    exact index.run_extends _ _
  have asked := index.run_eq_runWith _ first
  rw [known] at asked
  refine kept.trans ?_
  simp only [memoBefore, Chain.course?, Chain.questionsBefore, run_bind, asked, base, run_pure]
  exact index.run_moves_take_extends index.markers chain.steps count _

end Index

/-- The invariant of the stack. A chain whose root is a builder has a stack before each step up to the first
that yields no builder: the one to which its course leads. It is not empty. The types on it are all
different, so the entry to which a step goes back is the only one with its type. The top has the type
that the last step has yielded, or that of the root. All entries are open, and their facts are those
that the index has for their types from then on. No entry below the top is a stage, and no terminal
method has been called on it. -/
theorem Index.stack_well_formed (index : Index) (chain : Chain) {memo later : Memo}
    (kept : later.Extends (index.run (chain.obligations index.markers) memo).2)
    (builder : (index.view later).isBuilder index.decls chain.root.type = true) :
    let view := index.view later
    let trace := chain.stackAt view index.markers
    (∀ count, (trace count).isSome = true ↔ count ≤ chain.steps.length ∧
      ∀ step ∈ chain.steps.take count, view.isBuilder index.decls step.result = true) ∧
    ∀ count tracked, trace count = some tracked →
      (∃ course, (index.run (chain.course? index.markers) memo).1 = some course ∧
        tracked.stack = (course.moves.take count).foldl Stack.step (.start course.root)) ∧
      tracked.stack.pending ≠ [] ∧
      (tracked.stack.pending.map Pending.type).Nodup ∧
      (∀ type above found rest,
        Stack.splitAtFirst (fun pending => pending.type = type) tracked.stack.below = some (above, found, rest) →
        tracked.stack.pending.filter (fun pending => pending.type = type) = [found]) ∧
      (chain.types[count]?.bind fun type => type.bind index.decls.base?) = some tracked.stack.top.type ∧
      (∀ entry ∈ tracked.pending, entry.1 ∉ tracked.closed.map Prod.fst) ∧
      later.Extends (index.memoBefore chain memo count) ∧
      (∀ now, now.Extends (index.memoBefore chain memo count) → ∀ pending ∈ tracked.stack.pending,
        (index.facts pending.type now).1 = some pending.facts) ∧
      ∀ pending ∈ tracked.stack.below, pending.facts.isStage = false ∧ pending.reached = false := by
  intro view trace
  obtain ⟨course, found, -⟩ := chain.runWith_course? view index.markers builder
  have followed := Chain.follows found
  have walked : later.Extends (index.run (chain.course? index.markers) memo).2 := by
    refine kept.trans ?_
    rw [Chain.obligations, index.run_bind]
    exact index.run_extends _ _
  refine ⟨fun count => followed.isSome_stackAt, fun count tracked met => ?_⟩
  obtain ⟨wellFormed, top, opened⟩ := Chain.wellFormed_of_stackAt met
  have pending := tracked.pending_stack
  have known := index.run_course?_extends count walked builder
  refine ⟨⟨course, ?_, ?_⟩, by simp [Stack.pending], ?_, fun type above found rest => wellFormed.found_alone, top,
    opened, known, fun now asked one member => ?_, fun one member => ?_⟩
  · rw [index.run_eq_runWith _ walked, found]
  · obtain ⟨other, alsoFound, same⟩ := Chain.stack_of_stackAt met
    obtain rfl := Option.some.inj (found.symm.trans alsoFound)
    exact same
  · rw [pending, List.map_map]
    exact wellFormed.distinct
  · -- The stack is the same with what is answered now, so its facts are those that are given now.
    have same : (chain.questionsBefore index.markers count).runWith (index.view now) =
        (chain.questionsBefore index.markers count).runWith view := by
      rw [← index.run_eq_runWith _ asked, index.run_eq_runWith _ known]
    have metNow := (Chain.stackAt_congr same).trans met
    rw [pending] at member
    obtain ⟨entry, listed, rfl⟩ := List.mem_map.mp member
    exact (Chain.wellFormed_of_stackAt metNow).1.facts entry listed
  · obtain ⟨entry, listed, rfl⟩ := List.mem_map.mp member
    exact wellFormed.below entry listed

namespace Sample

/-- Before the last step of the chain all three builders are on the stack. -/
theorem nestedChain_well_formed :
    nestedView.isBuilder nested.build.index.decls nestedChain.root.type = true ∧
      ∃ tracked, nestedChain.stackAt nestedView nested.build.index.markers 2 = some tracked ∧
        tracked.stack.pending.map Pending.type = [0, 1, 2] ∧
        (∀ pending ∈ tracked.stack.pending,
          (nested.build.index.facts pending.type nestedRun.2).1 = some pending.facts) ∧
        ∀ pending ∈ tracked.stack.below, pending.facts.isStage = false ∧ pending.reached = false := by
  have builder : nestedView.isBuilder nested.build.index.decls nestedChain.root.type = true := by
    decide +kernel
  have types : ((nestedChain.stackAt nestedView nested.build.index.markers 2).map fun tracked =>
      tracked.stack.pending.map Pending.type) = some [0, 1, 2] := by decide +kernel
  obtain ⟨tracked, met, three⟩ := Option.map_eq_some_iff.mp types
  obtain ⟨-, holds⟩ := @Index.stack_well_formed nested.build.index nestedChain nested.build.memo
    nestedRun.2 (Memo.Extends.refl _) builder
  obtain ⟨-, -, -, -, -, -, known, facts, below⟩ := holds 2 tracked met
  exact ⟨builder, tracked, met, three, facts nestedRun.2 known, below⟩

end Sample

end Fluent
