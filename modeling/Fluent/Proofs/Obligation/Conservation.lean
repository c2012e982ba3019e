import Fluent.Proofs.Chain.Positions
import Fluent.Proofs.Obligation.Opening

/-! Obligations are neither lost nor made up.

Along a chain the root opens an obligation, and so does each step that puts an entry on the stack,
above the top or in its place. No other obligations are returned, and none twice. Each is open
from then on until it is resolved, and what it has come to then is changed no more, except that
a chain which is exempt from checks excuses what is violated. -/

set_option autoImplicit false

namespace Fluent

open Inquiry (View)

theorem Outcome.state_ne_open (outcome : Outcome) : outcome.state ≠ .open := by
  cases outcome <;> simp [state]

/-- Does a step put an obligation on the stack, above the top or in its place? -/
def Stack.Opens (stack next : Stack) (move : Move) : Prop :=
  (∃ top, next = { closed := stack.closed, below := top :: stack.below, top := move.open }) ∨
    ∃ completed, next =
      { closed := stack.closed ++ [completed], below := stack.below, top := move.open }

namespace Tracked

variable {tracked next : Tracked} {move : Move} {number : Nat}

theorem length_numbers (tracked : Tracked) :
    tracked.numbers.length = tracked.stack.closed.length + (tracked.stack.below.length + 1) := by
  simp [numbers, pending, stack]

/-- A step opens an obligation exactly if it gives out its number. -/
theorem Steps.opens_iff (took : Steps tracked move number next) (fresh : number ∉ tracked.numbers) :
    Stack.Opens tracked.stack next.stack move ↔ number ∈ next.numbers := by
  constructor
  · intro opens
    have longer : next.numbers.length = tracked.numbers.length + 1 := by
      rw [length_numbers, length_numbers]
      rcases opens with ⟨top, same⟩ | ⟨completed, same⟩
      · rw [same]
        simp only [List.length_cons]
        omega
      · rw [same]
        simp only [List.length_append, List.length_singleton]
        omega
    rcases took.numbers with same | more
    · rw [same.length_eq] at longer
      omega
    · exact more.mem_iff.mpr List.mem_cons_self
  · intro member
    have longer : next.numbers.length = tracked.numbers.length + 1 := by
      rcases took.numbers with same | more
      · exact (fresh (same.mem_iff.mp member)).elim
      · exact more.length_eq
    rw [length_numbers, length_numbers] at longer
    cases took with
    | stay same => simp [mark, stack] at longer
    | back above found rest differs below fits before =>
      simp only [stack, below, List.map_append, List.map_cons, List.map_reverse, List.length_append,
        List.length_reverse, List.length_map, List.length_cons] at longer
      omega
    | moveOn differs none stage => simp [stack] at longer
    | replace differs none stage reached =>
      exact Or.inr ⟨tracked.top.2.resolve .discharged, by simp [stack]⟩
    | push differs none stage unreached =>
      exact Or.inl ⟨(tracked.mark move.terminal).top.2, by simp [stack]⟩

/-- The numbers after a step are those from before and, if the step opens an obligation, its own. -/
theorem Steps.mem_numbers_iff (took : Steps tracked move number next) (fresh : number ∉ tracked.numbers)
    {other : Nat} : other ∈ next.numbers ↔
      other ∈ tracked.numbers ∨ other = number ∧ Stack.Opens tracked.stack next.stack move := by
  rw [took.opens_iff fresh]
  constructor
  · intro member
    rcases took.numbers with same | more
    · exact Or.inl (same.mem_iff.mp member)
    · rcases List.mem_cons.mp (more.mem_iff.mp member) with rfl | before
      · exact Or.inr ⟨rfl, member⟩
      · exact Or.inl before
  · rintro (before | ⟨rfl, member⟩)
    · exact took.numbers_kept before
    · exact member

end Tracked

namespace Course

variable (course : Course)

/-- Does a move open an obligation? -/
def OpensAt (count : Nat) : Prop :=
  ∃ move, course.moves[count]? = some move ∧
    Stack.Opens (course.after count).stack (course.after (count + 1)).stack move

variable {course} {context : Context} {accepts : Bool} {count number : Nat} {obligation : Obligation}

/-- The numbers are those of the root and of the moves that have opened an obligation. -/
theorem mem_numbers_iff (inside : count ≤ course.moves.length) :
    number ∈ (course.after count).numbers ↔
      number = 0 ∨ ∃ earlier < count, number = earlier + 1 ∧ course.OpensAt earlier := by
  induction count generalizing number with
  | zero => simp [after, Tracked.numbers, Tracked.pending, Tracked.start, Tracked.run]
  | succ count ih =>
    have here : count < course.moves.length := inside
    have fresh : 1 + count ∉ (course.after count).numbers := fun member => by
      rcases (ih (Nat.le_of_lt here)).mp member with root | ⟨earlier, before, same, -⟩ <;> omega
    have opens : course.OpensAt count ↔
        Stack.Opens (course.after count).stack (course.after (count + 1)).stack course.moves[count] := by
      simp [OpensAt, List.getElem?_eq_getElem here]
    have took := (course.after count).steps course.moves[count] (1 + count)
    rw [← course.after_succ here] at took
    rw [took.mem_numbers_iff fresh, ih (Nat.le_of_lt here), ← opens]
    constructor
    · rintro ((root | ⟨earlier, before, same, opened⟩) | ⟨same, opened⟩)
      · exact Or.inl root
      · exact Or.inr ⟨earlier, Nat.lt_succ_of_lt before, same, opened⟩
      · exact Or.inr ⟨count, Nat.lt_succ_self count, by omega, opened⟩
    · rintro (root | ⟨earlier, before, same, opened⟩)
      · exact Or.inl (Or.inl root)
      · rcases Nat.lt_succ_iff_lt_or_eq.mp before with before | rfl
        · exact Or.inl (Or.inr ⟨earlier, before, same, opened⟩)
        · exact Or.inr ⟨by omega, opened⟩

/-- An obligation is on the stack from the move that opens it up to some last one, and closed from then
on. -/
theorem lifetime (member : (number, obligation) ∈ course.tracked context accepts) :
    ∃ last, ∀ count ≤ course.moves.length,
      ((course.after count).Holds number ↔ number ≤ count ∧ count ≤ last) ∧
      (number ∈ (course.after count).closed.map Prod.fst ↔ last < count) := by
  obtain ⟨pending, ⟨last, inside, isPending, gone⟩, -⟩ := lastOpen_of_tracked member
  have isOpen : course.OpenAt last number := (openAt_iff inside).mpr (Tracked.holds_of_mem isPending)
  refine ⟨last, fun count within => ⟨⟨fun holds => ?_, fun ⟨first, before⟩ => ?_⟩, fun closed => ?_, fun late => ?_⟩⟩
  · have now := (openAt_iff within).mpr holds
    exact ⟨now.number_le, Nat.le_of_not_lt fun late => gone count within late holds⟩
  · exact (isOpen.without_gap first before).holds
  · -- What is closed stays closed, and is open no more.
    obtain ⟨entry, listed, rfl⟩ := List.mem_map.mp closed
    refine Nat.lt_of_not_le fun before => ?_
    exact not_open_of_closed (closed_after before inside listed) isOpen.holds
  · have numbers : number ∈ (course.after count).numbers := by
      rw [mem_numbers_iff within]
      have known : number ∈ (course.after last).numbers := List.mem_append_right _ isOpen.holds
      rw [mem_numbers_iff inside] at known
      exact known.imp_right fun ⟨earlier, before, rest⟩ => ⟨earlier, Nat.lt_trans before late, rest⟩
    exact (List.mem_append.mp numbers).resolve_right (gone count within late)

/-- What a move has closed is returned as it is. -/
theorem resolved_of_closed (inside : count ≤ course.moves.length) {resolved : Obligation}
    (closed : (number, resolved) ∈ (course.after count).closed)
    (member : (number, obligation) ∈ course.tracked context accepts) : obligation = resolved := by
  have returned : (number, resolved) ∈ course.tracked context accepts := by
    refine List.mem_append_left _ ?_
    rw [closed_last]
    exact closed_after inside (Nat.le_refl _) closed
  have unique := course.number_unique context accepts member
  have listed : (number, resolved) ∈ [(number, obligation)] := by
    rw [← unique]
    exact List.mem_filter.mpr ⟨returned, by simp⟩
  exact (Prod.mk.inj (List.mem_singleton.mp listed)).2.symm

end Course

namespace Chain

variable {chain : Chain} {view : View} {markers : Markers} {course : Course} {count number : Nat}
  {obligation : Obligation}

/-- Does a step open an obligation? -/
def OpensAt (view : View) (markers : Markers) (chain : Chain) (count : Nat) : Prop :=
  ∃ step move tracked next, chain.steps[count]? = some step ∧ move? view markers step = some move ∧
    chain.stackAt view markers count = some tracked ∧ chain.stackAt view markers (count + 1) = some next ∧
    Stack.Opens tracked.stack next.stack move

theorem Follows.opensAt_iff (followed : Follows view markers chain course) :
    chain.OpensAt view markers count ↔ course.OpensAt count := by
  constructor
  · rintro ⟨step, move, tracked, next, listed, moved, met, later, opens⟩
    rw [followed.stackAt] at met later
    obtain ⟨inside, rfl⟩ := Course.stackAt_eq_some.mp met
    obtain ⟨-, rfl⟩ := Course.stackAt_eq_some.mp later
    have same := followed.moved count inside
    rw [listed, Option.bind_some, moved] at same
    exact ⟨move, same.symm, opens⟩
  · rintro ⟨move, listed, opens⟩
    have inside : count < course.moves.length := (List.getElem?_eq_some_iff.mp listed).1
    obtain ⟨step, isStep, moved⟩ := followed.step_of_move listed
    refine ⟨step, move, _, _, isStep, moved, ?_, ?_, opens⟩
    · rw [followed.stackAt, Course.stackAt_eq_some]
      exact ⟨Nat.le_of_lt inside, rfl⟩
    · rw [followed.stackAt, Course.stackAt_eq_some]
      exact ⟨inside, rfl⟩

theorem Follows.mem_numbers_iff (followed : Follows view markers chain course) :
    number ∈ (chain.tracked view markers).map Prod.fst ↔
      number = 0 ∨ ∃ count, number = count + 1 ∧ chain.OpensAt view markers count := by
  rw [followed.numbers_tracked, Course.mem_numbers_iff (Nat.le_refl _)]
  simp only [followed.opensAt_iff]
  refine or_congr_right ⟨fun ⟨count, _, rest⟩ => ⟨count, rest⟩, fun ⟨count, same, opens⟩ => ?_⟩
  have inside : count < course.moves.length := by
    obtain ⟨move, listed, -⟩ := opens
    exact (List.getElem?_eq_some_iff.mp listed).1
  exact ⟨count, inside, same, opens⟩

theorem Follows.lifetime (followed : Follows view markers chain course)
    (member : (number, obligation) ∈ chain.tracked view markers) :
    ∃ last, ∀ count tracked, chain.stackAt view markers count = some tracked →
      (tracked.Holds number ↔ number ≤ count ∧ count ≤ last) ∧
      (number ∈ tracked.closed.map Prod.fst ↔ last < count) ∧
      ∀ resolved, (number, resolved) ∈ tracked.closed →
        (resolved.outcome = .discharged ∧ obligation = resolved) ∨
        (∃ usage node, resolved.outcome = .violated usage node) ∧ obligation =
          if chain.suppressed then { resolved with outcome := .suppressed chain.context.usage }
          else resolved := by
  rw [followed.tracked_eq] at member
  obtain ⟨⟨number, before⟩, isTracked, same⟩ := List.mem_map.mp member
  obtain ⟨rfl, rfl⟩ := Prod.mk.inj same
  obtain ⟨last, known⟩ := Course.lifetime isTracked
  refine ⟨last, fun count tracked met => ?_⟩
  rw [followed.stackAt] at met
  obtain ⟨inside, rfl⟩ := Course.stackAt_eq_some.mp met
  refine ⟨(known count inside).1, (known count inside).2, fun resolved closed => ?_⟩
  obtain rfl := Course.resolved_of_closed inside closed isTracked
  obtain ⟨-, -, call, -, -, -, judged⟩ := Course.outcome_of_closed followed.fresh inside closed
  rcases judged with ⟨-, outcome⟩ | ⟨-, outcome⟩
  · exact Or.inl ⟨outcome, by simp [excuse, suppress, outcome]⟩
  · exact Or.inr ⟨⟨_, _, outcome⟩, by simp [excuse, suppress, outcome]⟩

theorem Follows.numbers_nodup (followed : Follows view markers chain course) :
    ((chain.tracked view markers).map Prod.fst).Nodup := by
  rw [followed.numbers_tracked]
  exact Tracked.numbers_nodup course.root _

/-- If no two steps are shown at the same place, then neither are two obligations. -/
theorem Follows.spans_nodup (followed : Follows view markers chain course) (apart : chain.anchors.Nodup) :
    ((chain.tracked view markers).map fun entry => (entry.2.start, entry.2.stop)).Nodup := by
  refine List.pairwise_map.mpr ((List.pairwise_map.mp followed.numbers_nodup).imp_of_mem ?_)
  intro first second isFirst isSecond differ same
  have one := (followed.anchor isFirst).1
  have other := (followed.anchor isSecond).1
  rw [← same] at other
  have bound : first.1 < chain.anchors.length := (List.getElem?_eq_some_iff.mp one).1
  exact differ ((List.getElem?_inj bound apart).mp (one.trans other.symm))

/-- A chain that is exempt from checks has the same obligations, but what is violated is excused. -/
theorem run_exempt (index : Index) (chain : Chain) (memo : Memo) :
    index.run ({ chain with suppressed := true }.obligations index.markers) memo =
      Prod.map (List.map (suppress chain.context)) id
        (index.run ({ chain with suppressed := false }.obligations index.markers) memo) := by
  have same (exempt : Bool) :
      { chain with suppressed := exempt }.course? index.markers = chain.course? index.markers := rfl
  simp only [obligations, Index.run_bind, same]
  cases (index.run (chain.course? index.markers) memo).1 with
  | none => rfl
  | some course =>
    simp only [if_true, Bool.false_eq_true, if_false]
    -- Whether or not the context is asked, it is asked in both runs.
    by_cases asks : course.remaining.any course.asksContext = true
    · simp only [if_pos asks, Index.run_bind, Index.run_pure, Prod.map, id]
    · simp only [if_neg asks, Index.run_bind, Index.run_pure, Prod.map, id]

theorem suppress_eq (context : Context) (obligation : Obligation) :
    suppress context obligation =
      if obligation.outcome.state = .violated then { obligation with outcome := .suppressed context.usage }
      else obligation := by
  unfold suppress
  cases outcome : obligation.outcome <;> simp [Outcome.state]

end Chain

/-- The root and the steps of a chain are shown from left to right, inside of its outermost
expression. -/
theorem Scene.anchors_shown (scene : Scene) (view : View) (placed : scene.file.WellPlaced) {chain : Chain}
    (extracted : chain ∈ scene.chains.runWith view) :
    ∃ outer : Node, chain.outer = outer.ref ∧ ShownInside chain.anchors outer.head := by
  obtain ⟨cursor, visited, found⟩ := (scene.mem_runWith_chainsAt view _ chain).mp extracted
  rcases (scene.emitted_eq_some_iff view).mp found with ⟨reference, starts, -, rfl⟩ | ⟨-, mentioned⟩
  · refine ⟨cursor.node, rfl, ?_⟩
    have shown := @Cursor.spine_shown view scene.decls scene.file placed cursor visited
      (scene.starts?_cases view starts).1
    have same : (scene.finish cursor (scene.rootAt view cursor) (scene.stepsAt view cursor) reference).anchors =
        (cursor.node.spineBy view scene.decls).anchors := by
      simp only [Chain.anchors, finish, rootAt, expr_root]
      rfl
    rw [same]
    exact shown
  · obtain ⟨func, message, -, -, -, -, rfl⟩ := (scene.runWith_mention_eq_some_iff view).mp mentioned
    have reached : scene.decls.instantiated cursor ∈ scene.file.cursors :=
      Cursor.climbFrom_mem_cursors _ visited
    exact ⟨(scene.decls.instantiated cursor).node, rfl, ShownInside.single (placed _ reached).1⟩

/-- The obligations of a chain whose root is a builder. There is one for the root and one for each
step that opens one, and no others. Each stands where the root or the step is shown, and none is left
open. It is on the stack from its opening up to some step, is closed from then on, and what it has come
to then is returned, excused if it is violated and the chain is exempt from checks. An exempt chain has
the same obligations as it has without the exemption. If the chain is extracted from a file in which
nodes stand inside of their parents and selectors behind what they select from, no two obligations
stand at the same place, and all stand inside of the outermost expression. -/
theorem Index.obligations_conserved (index : Index) (chain : Chain) {memo later : Memo}
    (kept : later.Extends (index.run (chain.obligations index.markers) memo).2)
    (builder : (index.view later).isBuilder index.decls chain.root.type = true) :
    let view := index.view later
    let run := index.run (chain.obligations index.markers) memo
    let returned := chain.tracked view index.markers
    let trace := chain.stackAt view index.markers
    returned.map Prod.snd = run.1 ∧
    (∀ count tracked, trace count = some tracked →
      ∃ course, (chain.course? index.markers).runWith view = some course ∧
        tracked.stack = (course.moves.take count).foldl Stack.step (.start course.root)) ∧
    (returned.map Prod.fst).Nodup ∧
    (∀ number, number ∈ returned.map Prod.fst ↔
      number = 0 ∨ ∃ count, number = count + 1 ∧ chain.OpensAt view index.markers count) ∧
    (∀ number obligation, (number, obligation) ∈ returned →
      chain.anchors[number]? = some (obligation.start, obligation.stop) ∧
      obligation.outcome.state ≠ .open ∧
      ∃ last, ∀ count tracked, trace count = some tracked →
        (tracked.Holds number ↔ number ≤ count ∧ count ≤ last) ∧
        (number ∈ tracked.closed.map Prod.fst ↔ last < count) ∧
        ∀ resolved, (number, resolved) ∈ tracked.closed →
          (resolved.outcome = .discharged ∧ obligation = resolved) ∨
          (∃ usage node, resolved.outcome = .violated usage node) ∧ obligation =
            if chain.suppressed then { resolved with outcome := .suppressed chain.context.usage }
            else resolved) ∧
    index.run ({ chain with suppressed := true }.obligations index.markers) memo =
      Prod.map (List.map fun obligation =>
          if obligation.outcome.state = .violated
          then { obligation with outcome := .suppressed chain.context.usage } else obligation) id
        (index.run ({ chain with suppressed := false }.obligations index.markers) memo) ∧
    ∀ (file : SourceFile) (before : Memo), file.WellPlaced →
      chain ∈ (index.run (Scene.chains { markers := index.markers, file }) before).1 →
      (run.1.map fun obligation => (obligation.start, obligation.stop)).Nodup ∧
      ∀ obligation ∈ run.1, chain.outer.start ≤ obligation.start ∧ obligation.start ≤ obligation.stop ∧
        obligation.stop ≤ chain.outer.stop := by
  intro view run returned trace
  obtain ⟨course, found, -⟩ := chain.runWith_course? view index.markers builder
  have followed := Chain.follows found
  have same : returned.map Prod.snd = run.1 := by rw [chain.tracked_snd, index.run_eq_runWith _ kept]
  refine ⟨same, fun count tracked => Chain.stack_of_stackAt, followed.numbers_nodup,
    fun number => followed.mem_numbers_iff, fun number obligation member => ?_, ?_,
    fun file before placed extracted => ?_⟩
  · exact ⟨(followed.anchor member).1, obligation.outcome.state_ne_open, followed.lifetime member⟩
  · simp only [Chain.run_exempt, ← Chain.suppress_eq]
  · rw [index.run_eq_runWith _ (Memo.Extends.refl _)] at extracted
    obtain ⟨outer, isOuter, shown⟩ := Scene.anchors_shown _ _ placed extracted
    rw [← same, isOuter]
    constructor
    · rw [List.map_map]
      exact followed.spans_nodup shown.nodup
    · intro obligation member
      obtain ⟨⟨number, obligation⟩, listed, rfl⟩ := List.mem_map.mp member
      exact shown.inside _ (List.mem_of_getElem? (followed.anchor listed).1)

namespace Sample

/-- The statement `x.Second().Third().Done()` in a file. -/
def nesting : SourceFile :=
  let x : Node := .ident ⟨⟨25, 26, some (.plain 0)⟩, "x", none, none⟩
  let second : Node := .call ⟨25, 35, some (.plain 1)⟩
    (.selector ⟨25, 33, some (.plain 6)⟩ x ⟨⟨27, 33, none⟩, "Second", some 3, none⟩
      (some { kind := .methodValue, receiver := .plain 0, method := some 3 })) [] false
  let third : Node := .call ⟨25, 43, some (.plain 2)⟩
    (.selector ⟨25, 41, some (.plain 7)⟩ second ⟨⟨36, 41, none⟩, "Third", some 4, none⟩
      (some { kind := .methodValue, receiver := .plain 1, method := some 4 })) [] false
  fileOf [.call ⟨25, 50, some (.plain 0)⟩
    (.selector ⟨25, 48, some (.plain 5)⟩ third ⟨⟨44, 48, none⟩, "Done", some 2, none⟩
      (some { kind := .methodValue, receiver := .plain 2, method := some 2 })) [] false]

def nestingChains : List Chain :=
  (nested.build.index.run (Scene.chains { markers := nested.build.index.markers, file := nesting }) []).1

def nestingRun (chain : Chain) : List Obligation × Memo :=
  nested.build.index.run (chain.obligations nested.build.index.markers) []

/-- The chain has one obligation for each of its three builders. They stand at different places
inside of the call of `Done`. -/
theorem nesting_conserved :
    nesting.WellPlaced ∧ ∃ chain ∈ nestingChains,
      (nested.build.index.view (nestingRun chain).2).isBuilder nested.build.index.decls chain.root.type = true ∧
      (nestingRun chain).1.length = 3 ∧
      ((nestingRun chain).1.map fun obligation => (obligation.start, obligation.stop)).Nodup ∧
      ∀ obligation ∈ (nestingRun chain).1, 25 ≤ obligation.start ∧ obligation.stop ≤ 50 := by
  have placed : nesting.WellPlaced := by decide +kernel
  have found : ∃ chain ∈ nestingChains,
      (nested.build.index.view (nestingRun chain).2).isBuilder nested.build.index.decls chain.root.type = true ∧
      (nestingRun chain).1.length = 3 ∧ chain.outer = ⟨.callExpr, 25, 50⟩ := by decide +kernel
  obtain ⟨chain, extracted, builder, three, outer⟩ := found
  obtain ⟨-, -, -, -, -, -, positions⟩ := @Index.obligations_conserved nested.build.index chain []
    (nestingRun chain).2 (Memo.Extends.refl _) builder
  obtain ⟨apart, inside⟩ := positions nesting [] placed extracted
  refine ⟨placed, chain, extracted, builder, three, apart, fun obligation member => ?_⟩
  obtain ⟨first, -, last⟩ := inside obligation member
  rw [outer] at first last
  exact ⟨first, last⟩

end Sample

end Fluent
