import Fluent.Proofs.Chain.Ascent
import Fluent.Proofs.Index.Memo
import Mathlib.Logic.ExistsUnique

/-! Chains do not share positions, and leave out only what they have to.

The links of chains are the calls that yield a builder or call a method of one, and the
fields that are selected from a builder. In a well-typed file the descents from different
starting positions have no position in common. A link lies on one of them, unless the way up
from it comes to a method that is called with explicit type arguments: such a method counts
as called, so no chain starts there, but no descent goes through its call. -/

set_option autoImplicit false

namespace Fluent

open Inquiry (View)

namespace Cursor

variable (view : View) (decls : Declarations)

/-- The positions that a descent comes to, beginning where it starts. -/
def trail (cursor : Cursor) : List Cursor :=
  match _goes : cursor.descend? view decls with
  | some (next, _) => cursor :: trail next
  | none => [cursor]
termination_by sizeOf cursor.node
decreasing_by exact sizeOf_of_descend? view decls _goes

theorem trail_of_descend? {cursor next : Cursor} {step : Step}
    (goes : cursor.descend? view decls = some (next, step)) :
    cursor.trail view decls = cursor :: next.trail view decls := by
  rw [trail]
  split
  next found =>
    rw [goes] at found
    cases found
    rfl
  next found =>
    rw [goes] at found
    cases found

theorem trail_of_end {cursor : Cursor} (ends : cursor.descend? view decls = none) :
    cursor.trail view decls = [cursor] := by
  rw [trail]
  split
  next found =>
    rw [ends] at found
    cases found
  next => rfl

theorem self_mem_trail (cursor : Cursor) : cursor ∈ cursor.trail view decls := by
  rw [trail]
  split <;> exact List.mem_cons_self

theorem trail_induction (holds : Cursor → Prop)
    (step : ∀ cursor next taken, cursor.descend? view decls = some (next, taken) →
      holds cursor → holds next)
    {cursor : Cursor} (first : holds cursor) : ∀ position ∈ cursor.trail view decls, holds position := by
  fun_induction trail view decls cursor with
  | case1 cursor next taken goes ih =>
    exact List.forall_mem_cons.mpr ⟨first, ih (step cursor next taken goes first)⟩
  | case2 cursor ends => exact List.forall_mem_singleton.mpr first

theorem trail_subset {cursor : Cursor} : ∀ middle ∈ cursor.trail view decls,
    ∀ position ∈ middle.trail view decls, position ∈ cursor.trail view decls := by
  apply trail_induction view decls (fun middle =>
    ∀ position ∈ middle.trail view decls, position ∈ cursor.trail view decls)
  · intro middle next taken goes below position member
    exact below position (by rw [trail_of_descend? view decls goes]; exact List.mem_cons_of_mem _ member)
  · exact fun _ member => member

theorem next_mem_trail {cursor next : Cursor} {step : Step}
    (goes : cursor.descend? view decls = some (next, step)) : next ∈ cursor.trail view decls := by
  rw [trail_of_descend? view decls goes]
  exact List.mem_cons_of_mem _ (self_mem_trail view decls next)

theorem source_of_mem_trail {cursor : Cursor} : ∀ position ∈ cursor.trail view decls,
    position = cursor ∨ ∃ source ∈ cursor.trail view decls, ∃ step,
      source.descend? view decls = some (position, step) := by
  -- The sources have to lie on the trail themselves, so membership is carried along.
  have both : ∀ position ∈ cursor.trail view decls, position ∈ cursor.trail view decls ∧
      (position = cursor ∨ ∃ source ∈ cursor.trail view decls, ∃ step,
        source.descend? view decls = some (position, step)) := by
    apply trail_induction
    · intro source next step goes ⟨member, _⟩
      exact ⟨trail_subset view decls _ member _ (next_mem_trail view decls goes),
        Or.inr ⟨source, member, step, goes⟩⟩
    · exact ⟨self_mem_trail view decls cursor, Or.inl rfl⟩
  exact fun position member => (both position member).2

theorem mem_cursors_of_mem_trail {file : SourceFile} {cursor : Cursor}
    (visited : cursor ∈ file.cursors) : ∀ position ∈ cursor.trail view decls, position ∈ file.cursors := by
  apply trail_induction
  · intro source next step goes visited
    obtain ⟨_, _, _, _, _, _, _, _, _, below⟩ := mem_cursors_of_descend? view decls visited goes
    exact below
  · exact visited

/-- The node that a descent ends at, apart from the steps. -/
def restOfTrail : SpineEnd → List NodeRef
  | .operand node => [node.ref]
  | .methodExpr _ _ _ => []

/-- The steps of a spine stand at the positions of the trail, and so does its end. -/
theorem trail_refs (cursor : Cursor) (plain : cursor.node.isParen = false) :
    (cursor.trail view decls).map (fun position => position.node.ref) =
      ((cursor.node.spineBy view decls).steps.map Step.expr).reverse ++
        restOfTrail (cursor.node.spineBy view decls).base := by
  fun_induction trail view decls cursor with
  | case1 cursor next step goes ih =>
    -- A step stands where it is taken, at the call or at the selector.
    have expr : step.expr = cursor.node.ref := by
      obtain ⟨_, _, _, _, _, _, _, _, _, _, _, _, _, _, rfl⟩ | ⟨_, _, _, selection, _, _, _, _, rfl⟩ :=
        descend?_cases view decls goes
      · rfl
      · unfold Node.selectorStep
        cases selection.kind <;> rfl
    rw [List.map_cons, ih (isParen_of_descend? view decls goes), spineBy_of_descend? view decls goes]
    simp [Spine.extend, expr]
  | case2 cursor ends =>
    rw [spineBy_of_end view decls ends plain]
    obtain same | ⟨head, x, sel, selection, _, _, same⟩ := ending_cases view decls cursor.node
    · rw [same]
      rfl
    · rw [same]
      unfold Node.selectorStep
      cases selection.kind <;> rfl

end Cursor

namespace Scene

variable (scene : Scene) (view : View)

/-- Is an expression a link of a chain? -/
def isLink (cursor : Cursor) : Bool :=
  match cursor.node with
  | .call head callee _ _ =>
    !callee.isType && (scene.callsBuilder view callee || view.isBuilder scene.decls head.type)
  | .selector _ _ _ (some selection) =>
    selection.kind = .field && view.isBuilder scene.decls (some selection.receiver)
  | _ => false

/-- Is a method of a builder called, but not through parentheses alone? What is left are explicit
type arguments. -/
def isInstantiatedCallee (cursor : Cursor) : Bool :=
  match cursor.node with
  | .selector _ _ _ (some selection) =>
    selection.kind = .methodValue && view.isBuilder scene.decls (some selection.receiver) &&
      scene.decls.isCalled cursor && !cursor.isDirectCallee
  | _ => false

/-- A chain starts at a link unless a further step takes it up. -/
theorem starts?_of_isLink {cursor : Cursor} (link : scene.isLink view cursor = true) :
    cursor.node.isParen = false ∧
      scene.starts? view cursor =
        if isSelected cursor && view.isBuilder scene.decls (scene.decls.typeOf cursor.node)
        then none else some false := by
  obtain ⟨node, path⟩ := cursor
  unfold isLink at link
  split at link
  next head callee args spread isCall =>
    cases isCall
    refine ⟨rfl, ?_⟩
    simp only [starts?, link, Cursor.typeOf_call, Bool.true_and]
    cases isSelected _ && view.isBuilder scene.decls head.type <;> rfl
  next head x sel selection isSelector =>
    cases isSelector
    simp only [Bool.and_eq_true, decide_eq_true_eq] at link
    refine ⟨rfl, ?_⟩
    simp only [starts?, link.1, link.2, if_true, Cursor.typeOf_selector]
  next => cases link

/-- Does a chain start at a position, or would one start if explicit type arguments were not? -/
def isHead (cursor : Cursor) : Prop :=
  (scene.starts? view cursor).isSome = true ∨ scene.isInstantiatedCallee view cursor = true

variable (typed : scene.file.WellTyped scene.decls)

include typed

/-- The selector that takes up a position goes on the descent from a link, or from a method that
is not called as a link. -/
theorem taken_up {cursor : Cursor} (visited : cursor ∈ scene.file.cursors)
    (plain : cursor.node.isParen = false) (selected : isSelected cursor = true)
    (builder : view.isBuilder scene.decls (scene.decls.typeOf cursor.node) = true) :
    ∃ source ∈ scene.file.cursors, ∃ step,
      source.descend? view scene.decls = some (cursor, step) ∧
      source.path.length < cursor.path.length ∧
      (scene.isLink view source = true ∨ scene.starts? view source = some true ∨
        scene.isInstantiatedCallee view source = true) := by
  unfold isSelected at selected
  split at selected
  case h_2 => cases selected
  next head sel selection path around =>
    have kind : selection.kind ≠ .methodExpr := by simpa using selected
    rcases out : cursor.outOfParens with ⟨x, above⟩
    rw [out] at around
    cases around
    have shorter := Cursor.length_path_climbFrom Frame.isParen cursor.node cursor.path
    rw [← Cursor.outOfParens, out] at shorter
    have parent : (⟨.selector head x sel (some selection), path⟩ : Cursor) ∈ scene.file.cursors := by
      have above := Cursor.up_mem_cursors (Cursor.outOfParens_mem_cursors visited)
      rwa [out] at above
    -- In a well-typed file the selection is made from the very builder at the position.
    have receiver : view.isBuilder scene.decls (some selection.receiver) = true := by
      have same := (typed _ parent).1
      have inside : x.unparen = cursor.node := by
        rw [← Node.node_enter x (.selectorBase head sel (some selection) :: path)]
        have entered := Cursor.enter_outOfParens plain
        rw [out] at entered
        exact congrArg Cursor.node entered
      rw [inside] at same
      rw [← builder]
      exact (view.isBuilder_congr scene.decls same).symm
    obtain ⟨step, goes⟩ := Cursor.descend?_selector view scene.decls plain out kind receiver
    rcases selection with ⟨form, base, method⟩
    cases form with
    | methodExpr => exact (kind rfl).elim
    | field =>
      exact ⟨_, parent, step, goes, shorter, Or.inl (by simp [isLink, receiver])⟩
    | methodValue =>
      by_cases direct : (⟨.selector head x sel (some ⟨.methodValue, base, method⟩), path⟩ :
          Cursor).isDirectCallee = true
      · -- The method is called: the step is taken at the call, which is a link.
        obtain ⟨callHead, callee, args, spread, above, step, isCall, stripped, higher, goes⟩ :=
          Cursor.descend?_call view scene.decls plain out rfl receiver direct
        have call := Cursor.up_mem_cursors (Cursor.outOfParens_mem_cursors parent)
        rw [isCall] at call
        have noType : callee.isType = false := by
          cases callee <;> simp_all [Node.unparen, Node.isType]
        refine ⟨_, call, step, goes, Nat.lt_trans higher shorter, Or.inl ?_⟩
        simp [isLink, noType, callsBuilder, stripped, receiver]
      · refine ⟨_, parent, step, goes, shorter, Or.inr ?_⟩
        by_cases called : scene.decls.isCalled
            ⟨.selector head x sel (some ⟨.methodValue, base, method⟩), path⟩ = true
        · exact Or.inr (by simp [isInstantiatedCallee, receiver, called, direct])
        · exact Or.inl (by simp [starts?, receiver, called])

/-- The way up from a link comes to where a chain starts, or to a method with explicit type
arguments. -/
theorem isLink_cases {link : Cursor} (visited : link ∈ scene.file.cursors)
    (isLink : scene.isLink view link = true) :
    (∃ outer ∈ scene.file.cursors, (scene.starts? view outer).isSome = true ∧
      link ∈ outer.trail view scene.decls) ∨
    ∃ callee ∈ scene.file.cursors, scene.isInstantiatedCallee view callee = true ∧
      link ∈ callee.trail view scene.decls := by
  -- On the way up there are fewer and fewer frames above.
  induction depth : link.path.length using Nat.strongRecOn generalizing link with
  | ind n ih =>
    obtain ⟨plain, starts⟩ := scene.starts?_of_isLink view isLink
    by_cases goesOn : (isSelected link &&
        view.isBuilder scene.decls (scene.decls.typeOf link.node)) = true
    · simp only [Bool.and_eq_true] at goesOn
      obtain ⟨source, found, step, goes, higher, above⟩ :=
        scene.taken_up view typed visited plain goesOn.1 goesOn.2
      have next := Cursor.next_mem_trail view scene.decls goes
      rcases above with above | starting | instantiated
      · rcases ih _ (depth ▸ higher) found above rfl with ⟨outer, isOuter, starts, onTrail⟩ |
          ⟨callee, isCallee, called, onTrail⟩
        · exact Or.inl ⟨outer, isOuter, starts,
            Cursor.trail_subset view scene.decls _ onTrail _ next⟩
        · exact Or.inr ⟨callee, isCallee, called,
            Cursor.trail_subset view scene.decls _ onTrail _ next⟩
      · exact Or.inl ⟨source, found, by rw [starting]; rfl, next⟩
      · exact Or.inr ⟨source, found, instantiated, next⟩
    · rw [if_neg goesOn] at starts
      exact Or.inl ⟨link, visited, by rw [starts]; rfl, Cursor.self_mem_trail view scene.decls link⟩

theorem method_not_taken_up {source cursor : Cursor} {step : Step} (visited : source ∈ scene.file.cursors)
    (goes : source.descend? view scene.decls = some (cursor, step)) {head : Head} {x : Node}
    {sel : Ident} {selection : Selection} (isSelector : cursor.node = .selector head x sel (some selection))
    (kind : selection.kind ≠ .field) : False := by
  have builder := Cursor.receiver_isBuilder view typed visited goes
  obtain ⟨_, _, _, _, _, _, _, _, _, below⟩ := Cursor.mem_cursors_of_descend? view scene.decls visited goes
  obtain ⟨node, path⟩ := cursor
  cases isSelector
  rw [Cursor.selector_not_isBuilder view typed below kind] at builder
  cases builder

theorem head_not_taken_up {source cursor : Cursor} {step : Step} (visited : source ∈ scene.file.cursors)
    (goes : source.descend? view scene.decls = some (cursor, step)) (head : scene.isHead view cursor) :
    False := by
  have builder := Cursor.receiver_isBuilder view typed visited goes
  have selected := Cursor.isSelected_of_descend? view scene.decls goes
  -- Where the value is a builder and is selected from, the chain goes on and none starts.
  rcases head with starts | instantiated
  · unfold starts? at starts
    split at starts
    next head callee args spread isCall =>
      rw [isCall, Cursor.typeOf_call] at builder
      simp [selected, builder] at starts
    next head x sel selection isSelector =>
      by_cases kind : selection.kind = .field
      · rw [isSelector, Cursor.typeOf_selector] at builder
        simp [kind, selected, builder] at starts
      · exact scene.method_not_taken_up view typed visited goes isSelector kind
    next => cases starts
  · unfold isInstantiatedCallee at instantiated
    split at instantiated
    next head x sel selection isSelector =>
      simp only [Bool.and_eq_true, decide_eq_true_eq] at instantiated
      exact scene.method_not_taken_up view typed visited goes isSelector
        (by simp [instantiated.1.1.1])
    next => cases instantiated

omit typed in
theorem directCallee_not_head {cursor : Cursor} (direct : cursor.isDirectCallee = true) {head : Head}
    {x : Node} {sel : Ident} {selection : Selection}
    (isSelector : cursor.node = .selector head x sel (some selection))
    (kind : selection.kind = .methodValue) : ¬ scene.isHead view cursor := by
  have called := Cursor.isCalled_of_isDirectCallee scene.decls direct
  rintro (starts | instantiated)
  · simp [starts?, isSelector, kind, called] at starts
  · simp [isInstantiatedCallee, isSelector, direct] at instantiated

theorem heads_disjoint {first second position : Cursor} (visited : first ∈ scene.file.cursors)
    (visited' : second ∈ scene.file.cursors) (head : scene.isHead view first)
    (head' : scene.isHead view second) (below : position ∈ first.trail view scene.decls)
    (below' : position ∈ second.trail view scene.decls) : first = second := by
  -- A head on another trail would have been taken up there.
  have top {cursor other : Cursor} (seen : other ∈ scene.file.cursors) (isHead : scene.isHead view cursor)
      (member : cursor ∈ other.trail view scene.decls) : cursor = other := by
    rcases Cursor.source_of_mem_trail view scene.decls _ member with same | ⟨source, onTrail, step, goes⟩
    · exact same
    · exact (scene.head_not_taken_up view typed
        (Cursor.mem_cursors_of_mem_trail view scene.decls seen _ onTrail) goes isHead).elim
  -- A method on a trail is where the trail starts.
  have start {cursor other : Cursor} (seen : other ∈ scene.file.cursors)
      (member : cursor ∈ other.trail view scene.decls) {nodeHead : Head} {x : Node} {sel : Ident}
      {selection : Selection} (isSelector : cursor.node = .selector nodeHead x sel (some selection))
      (kind : selection.kind = .methodValue) : cursor = other := by
    rcases Cursor.source_of_mem_trail view scene.decls _ member with same | ⟨source, onTrail, step, goes⟩
    · exact same
    · exact (scene.method_not_taken_up view typed
        (Cursor.mem_cursors_of_mem_trail view scene.decls seen _ onTrail) goes isSelector
        (by simp [kind])).elim
  -- From the common position both trails are followed up. They part only at a method and its
  -- call, and there the method is no head.
  induction depth : position.path.length using Nat.strongRecOn generalizing position with
  | ind n ih =>
    rcases Cursor.source_of_mem_trail view scene.decls _ below with rfl | ⟨source, onTrail, step, goes⟩
    · exact top visited' head below'
    rcases Cursor.source_of_mem_trail view scene.decls _ below' with rfl | ⟨source', onTrail', step', goes'⟩
    · exact (top visited head' below).symm
    rcases Cursor.descend?_unique view scene.decls goes goes' with rfl |
      ⟨selected, which, direct, nodeHead, x, sel, selection, isSelector, kind, _⟩
    · exact ih _ (depth ▸ Cursor.length_path_of_descend? view scene.decls goes) onTrail onTrail' rfl
    · have notHead := scene.directCallee_not_head view direct isSelector kind
      rcases which with rfl | rfl
      · exact (notHead (start visited onTrail isSelector kind ▸ head)).elim
      · exact (notHead (start visited' onTrail' isSelector kind ▸ head')).elim

omit typed in
theorem starts?_of_isInstantiatedCallee {cursor : Cursor}
    (instantiated : scene.isInstantiatedCallee view cursor = true) :
    scene.starts? view cursor = none := by
  unfold isInstantiatedCallee at instantiated
  split at instantiated
  next head x sel selection isSelector =>
    simp only [Bool.and_eq_true, decide_eq_true_eq] at instantiated
    simp [starts?, isSelector, instantiated.1.1.1, instantiated.1.1.2, instantiated.1.2]
  next => cases instantiated

omit typed in
/-- A chain that consists of its root is made by a call, if a link lies on its trail. -/
theorem kind_of_no_steps {outer link : Cursor} (plain : outer.node.isParen = false)
    (onTrail : link ∈ outer.trail view scene.decls) (isLink : scene.isLink view link = true)
    (noSteps : scene.stepsAt view outer = []) :
    (scene.rootAt view outer).kind = .entryPoint ∨ (scene.rootAt view outer).kind = .call := by
  unfold stepsAt at noSteps
  cases goes : outer.descend? view scene.decls with
  | some found =>
    rw [Cursor.spineBy_of_descend? view scene.decls goes] at noSteps
    simp [Spine.extend] at noSteps
  | none =>
    -- Without a step the trail has one position, so the root is the link.
    rw [Cursor.trail_of_end view scene.decls goes, List.mem_singleton] at onTrail
    subst onTrail
    have spine := Cursor.spineBy_of_end view scene.decls goes plain
    unfold rootAt
    rw [spine]
    obtain ⟨node, path⟩ := link
    unfold Scene.isLink at isLink
    split at isLink
    next head callee args spread isCall =>
      cases isCall
      simp only [Bool.and_eq_true, Bool.not_eq_true'] at isLink
      simp only [Cursor.ending, Spine.of, root, operandRoot, isLink.1, Bool.false_eq_true, if_false]
      cases scene.message? callee.calledFunction? with
      | some message => exact Or.inl rfl
      | none => exact Or.inr rfl
    next head x sel selection isSelector =>
      cases isSelector
      simp only [Bool.and_eq_true, decide_eq_true_eq] at isLink
      simp [Cursor.descend?, isLink.1, isLink.2] at goes
    next => cases isLink

omit typed in
/-- A chain with a link is kept, unless it starts from a variable and its first step yields no
builder. -/
theorem keeps_or_plain_use {outer link : Cursor} (plain : outer.node.isParen = false)
    (onTrail : link ∈ outer.trail view scene.decls) (isLink : scene.isLink view link = true) :
    scene.keeps view (scene.rootAt view outer) (scene.stepsAt view outer) = true ∨
      ((scene.rootAt view outer).kind = .self ∨ (scene.rootAt view outer).kind = .operand) ∧
        ∃ first rest, scene.stepsAt view outer = first :: rest ∧
          view.isBuilder scene.decls first.result = false := by
  unfold keeps isChain
  cases steps : scene.stepsAt view outer with
  | nil =>
    rcases scene.kind_of_no_steps view plain onTrail isLink steps with kind | kind
    · exact Or.inl (by simp [kind])
    · exact Or.inl (by simp [kind])
  | cons first rest =>
    cases builder : view.isBuilder scene.decls first.result with
    | true => cases (scene.rootAt view outer).kind <;> simp [builder]
    | false => cases (scene.rootAt view outer).kind <;> simp [builder]

end Scene

/-- Extraction divides the links of a well-typed file among the chains. A link lies on the trail of
one starting position, unless the way up from it comes to a method that is called with explicit
type arguments. Trails of different starting positions have no position in common. A chain is
dropped only if it starts from a variable whose first step yields no builder. -/
theorem Index.chains_partition (index : Index) (file : SourceFile)
    (typed : file.WellTyped index.decls) {memo later : Memo} :
    let scene : Scene := { markers := index.markers, file }
    let view := index.view later
    let extraction := index.run scene.chains memo
    let starts (outer : Cursor) : Prop :=
      outer ∈ file.cursors ∧ (scene.starts? view outer).isSome = true
    later.Extends extraction.2 →
    (∀ link ∈ file.cursors, scene.isLink view link = true →
      ((∃! outer, starts outer ∧ link ∈ outer.trail view index.decls) ↔
        ¬ ∃ callee ∈ file.cursors, scene.isInstantiatedCallee view callee = true ∧
          link ∈ callee.trail view index.decls) ∧
      ∀ outer, starts outer → link ∈ outer.trail view index.decls →
        (∃ reference,
          scene.finish outer (scene.rootAt view outer) (scene.stepsAt view outer) reference ∈
            extraction.1) ∨
        ((scene.rootAt view outer).kind = .self ∨ (scene.rootAt view outer).kind = .operand) ∧
          ∃ first rest, scene.stepsAt view outer = first :: rest ∧
            view.isBuilder index.decls first.result = false) ∧
    (∀ first second, starts first → starts second → ∀ position,
      position ∈ first.trail view index.decls → position ∈ second.trail view index.decls →
      first = second) ∧
    ∀ outer, starts outer →
      (outer.trail view index.decls).map (fun position => position.node.ref) =
        ((scene.stepsAt view outer).map Step.expr).reverse ++
          Cursor.restOfTrail (outer.node.spineBy view index.decls).base := by
  intro scene view extraction starts extended
  have extracted : extraction.1 = scene.chains.runWith view := index.run_eq_runWith _ extended
  have disjoint (first second : Cursor) (start : starts first) (start' : starts second)
      (position : Cursor) (below : position ∈ first.trail view index.decls)
      (below' : position ∈ second.trail view index.decls) : first = second :=
    scene.heads_disjoint view typed start.1 start'.1 (Or.inl start.2) (Or.inl start'.2) below below'
  have plain {outer : Cursor} (start : starts outer) : outer.node.isParen = false := by
    obtain ⟨reference, known⟩ := Option.isSome_iff_exists.mp start.2
    exact (scene.starts?_cases view known).1
  refine ⟨?_, disjoint, fun outer start => Cursor.trail_refs view index.decls outer (plain start)⟩
  intro link visited isLink
  refine ⟨⟨?_, ?_⟩, ?_⟩
  · rintro ⟨outer, ⟨start, onTrail⟩, -⟩ ⟨callee, isCallee, instantiated, below⟩
    -- A common position would make the method a place where a chain starts.
    have same := scene.heads_disjoint view typed start.1 isCallee (Or.inl start.2)
      (Or.inr instantiated) onTrail below
    have none := scene.starts?_of_isInstantiatedCallee view instantiated
    rw [← same] at none
    have some := start.2
    rw [none] at some
    cases some
  · intro free
    rcases scene.isLink_cases view typed visited isLink with ⟨outer, isOuter, start, onTrail⟩ | stranded
    · exact ⟨outer, ⟨⟨isOuter, start⟩, onTrail⟩, fun other ⟨otherStart, otherTrail⟩ =>
        disjoint other outer otherStart ⟨isOuter, start⟩ link otherTrail onTrail⟩
    · exact (free stranded).elim
  · intro outer start onTrail
    obtain ⟨reference, known⟩ := Option.isSome_iff_exists.mp start.2
    rcases scene.keeps_or_plain_use view (plain start) onTrail isLink with kept | dropped
    · refine Or.inl ⟨reference, ?_⟩
      rw [extracted]
      exact scene.finish_mem_chains view start.1 known kept
    · exact Or.inr dropped

namespace Sample

def sceneOf (file : SourceFile) : Scene :=
  { markers := (inputOf file).build.index.markers, file }

/-- What the index answers once the chains of a file have been extracted. -/
def viewOf (file : SourceFile) : View :=
  (inputOf file).build.index.view ((inputOf file).build.index.run (sceneOf file).chains []).2

/-- Does a chain start at a position of a file whose descent comes to another one? -/
def Reaches (file : SourceFile) (link outer : Cursor) : Prop :=
  (outer ∈ file.cursors ∧ ((sceneOf file).starts? (viewOf file) outer).isSome = true) ∧
    link ∈ outer.trail (viewOf file) library

def completing : SourceFile := fileOf [doneCall 25]

/-- In `lib.New().Done()` each link lies on the trail of one starting position. -/
theorem completing_links_once :
    completing.WellTyped library ∧
      ∀ link ∈ completing.cursors, (sceneOf completing).isLink (viewOf completing) link = true →
        ∃! outer, Reaches completing link outer := by
  have typed : completing.WellTyped library := by decide +kernel
  have plain : ∀ callee ∈ completing.cursors,
      (sceneOf completing).isInstantiatedCallee (viewOf completing) callee = false := by decide +kernel
  obtain ⟨partition, -⟩ := @Index.chains_partition (inputOf completing).build.index completing typed
    [] _ (Memo.Extends.refl _)
  refine ⟨typed, fun link visited isLink => (partition link visited isLink).1.mpr ?_⟩
  rintro ⟨callee, member, instantiated, -⟩
  exact Bool.false_ne_true ((plain callee member).symm.trans instantiated)

def instantiating : SourceFile := fileOf [putCall 25]

/-- In `lib.New().Put[int]()` the call of `New` yields a builder, but lies on no trail. -/
theorem instantiating_link_lost :
    instantiating.WellTyped library ∧
      ∃ link ∈ instantiating.cursors,
        (sceneOf instantiating).isLink (viewOf instantiating) link = true ∧
        ¬ ∃ outer, Reaches instantiating link outer := by
  have typed : instantiating.WellTyped library := by decide +kernel
  have links : ∃ link ∈ instantiating.cursors,
      (sceneOf instantiating).isLink (viewOf instantiating) link = true := by decide +kernel
  have silent : ∀ outer ∈ instantiating.cursors,
      (sceneOf instantiating).starts? (viewOf instantiating) outer = none := by decide +kernel
  obtain ⟨link, visited, isLink⟩ := links
  refine ⟨typed, link, visited, isLink, ?_⟩
  rintro ⟨outer, ⟨member, starts⟩, -⟩
  rw [silent outer member] at starts
  cases starts

end Sample

end Fluent
