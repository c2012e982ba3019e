import Fluent.Proofs.Chain.EntryPoints

/-! Where the root and the steps of a chain are shown.

In a file whose nodes stand inside their parents, and whose selectors come behind what they select
from, a descent goes back in the text. So the root of a chain and its steps are shown from left to
right, each inside of the outermost expression. -/

set_option autoImplicit false

namespace Fluent

open Inquiry (View)

/-- Does a node stand inside of another one? -/
def Head.Inside (inner outer : Head) : Prop :=
  outer.start ≤ inner.start ∧ inner.stop ≤ outer.stop

instance (inner outer : Head) : Decidable (inner.Inside outer) := inferInstanceAs (Decidable (_ ∧ _))

theorem Head.Inside.trans {inner middle outer : Head} (first : inner.Inside middle)
    (second : middle.Inside outer) : inner.Inside outer :=
  ⟨Nat.le_trans second.1 first.1, Nat.le_trans first.2 second.2⟩

/-- In a selector the name comes behind what it is selected from. -/
def Node.SelectsBehind : Node → Prop
  | .selector head x sel _ =>
    x.head.stop < sel.head.start ∧ sel.head.start ≤ sel.head.stop ∧ sel.head.Inside head
  | _ => True

instance : (node : Node) → Decidable node.SelectsBehind
  | .selector _ _ _ _ => inferInstanceAs (Decidable (_ ∧ _))
  | .ident _ | .typeExpr _ | .paren _ _ | .index _ _ _ | .indexList _ _ _ | .call _ _ _ _
  | .composite _ _ _ | .unary _ _ _ | .keyValue _ _ _ | .funcLit _ _ | .discard _ _ _ | .send _ _ _
  | .assign _ _ _ | .ret _ _ | .valueSpec _ _ _ _ | .typeSpec _ _ | .genDecl _ _ _
  | .funcDecl _ _ _ _ _ | .other _ _ _ => .isTrue trivial

/-- A node ends behind its start, and its parts stand inside of it. -/
def Node.WellPlaced (node : Node) : Prop :=
  node.head.start ≤ node.head.stop ∧ (∀ part ∈ node.parts, part.2.head.Inside node.head) ∧
    node.SelectsBehind

instance (node : Node) : Decidable node.WellPlaced := inferInstanceAs (Decidable (_ ∧ _))

def SourceFile.WellPlaced (file : SourceFile) : Prop :=
  ∀ cursor ∈ file.cursors, cursor.node.WellPlaced

instance (file : SourceFile) : Decidable file.WellPlaced :=
  inferInstanceAs (Decidable (∀ cursor ∈ file.cursors, cursor.node.WellPlaced))

/-- The places are shown from left to right inside of a node. -/
structure ShownInside (anchors : List (Nat × Nat)) (head : Head) : Prop where
  inside : ∀ anchor ∈ anchors, head.start ≤ anchor.1 ∧ anchor.1 ≤ anchor.2 ∧ anchor.2 ≤ head.stop
  ordered : anchors.Pairwise fun first second => first.1 < second.1

namespace ShownInside

variable {anchors : List (Nat × Nat)} {inner outer : Head}

theorem single {head : Head} (spans : head.start ≤ head.stop) :
    ShownInside [(head.start, head.stop)] head where
  inside anchor member := by
    rw [List.mem_singleton.mp member]
    exact ⟨Nat.le_refl _, spans, Nat.le_refl _⟩
  ordered := List.pairwise_singleton _ _

/-- A further place is shown behind all others. -/
theorem extend (shown : ShownInside anchors inner) (nested : inner.Inside outer) {start stop : Nat}
    (behind : inner.stop < start) (spans : start ≤ stop) (first : outer.start ≤ start)
    (last : stop ≤ outer.stop) : ShownInside (anchors ++ [(start, stop)]) outer where
  inside anchor member := by
    rcases List.mem_append.mp member with member | member
    · obtain ⟨before, middle, after⟩ := shown.inside anchor member
      exact ⟨Nat.le_trans nested.1 before, middle, Nat.le_trans after nested.2⟩
    · rw [List.mem_singleton.mp member]
      exact ⟨first, spans, last⟩
  ordered := by
    refine List.pairwise_append.mpr ⟨shown.ordered, List.pairwise_singleton _ _, ?_⟩
    intro anchor member other isOther
    obtain ⟨-, middle, after⟩ := shown.inside anchor member
    rw [List.mem_singleton.mp isOther]
    exact Nat.lt_of_le_of_lt (Nat.le_trans middle after) behind

theorem nodup (shown : ShownInside anchors outer) : anchors.Nodup :=
  shown.ordered.imp fun before same => Nat.ne_of_lt before (congrArg Prod.fst same)

end ShownInside

/-- Where the end of a descent and its steps are shown. -/
def Spine.anchors (spine : Spine) : List (Nat × Nat) :=
  (spine.base.node.head.start, spine.base.node.head.stop) ::
    spine.steps.map fun step => (step.start, step.stop)

theorem Spine.anchors_extend (spine : Spine) (step : Step) :
    (spine.extend step).anchors = spine.anchors ++ [(step.start, step.stop)] := by
  simp [anchors, extend]

namespace SourceFile

variable {file : SourceFile} (placed : file.WellPlaced)
include placed

theorem inside_of_part {cursor : Cursor} (visited : cursor ∈ file.cursors) {part : Frame × Node}
    (isPart : part ∈ cursor.node.parts) : part.2.head.Inside cursor.node.head :=
  (placed _ visited).2.1 part isPart

/-- What stands in parentheses stands inside of them. -/
theorem enter_inside {node : Node} {path : List Frame} (visited : ⟨node, path⟩ ∈ file.cursors) :
    (node.enter path).node.head.Inside node.head := by
  fun_induction Node.enter path node with
  | case1 path head x ih =>
    have isPart : (Frame.paren head, x) ∈ (Node.paren head x).parts := List.mem_cons_self
    exact (ih (part_mem_cursors visited _ isPart)).trans (inside_of_part placed visited isPart)
  | case2 path node _ => exact ⟨Nat.le_refl _, Nat.le_refl _⟩

end SourceFile

namespace Cursor

variable (view : View) {decls : Declarations} {file : SourceFile} (placed : file.WellPlaced)
include placed

theorem selector_shown {head : Head} {x : Node} {sel : Ident} {selection : Option Selection}
    {path : List Frame} (visited : ⟨.selector head x sel selection, path⟩ ∈ file.cursors) :
    let receiver := (x.enter (.selectorBase head sel selection :: path)).node
    receiver.head.Inside head ∧ receiver.head.stop < sel.head.start ∧ head.start < sel.head.start ∧
      sel.head.start ≤ sel.head.stop ∧ sel.head.Inside head := by
  intro receiver
  have isPart : (Frame.selectorBase head sel selection, x) ∈ (Node.selector head x sel selection).parts :=
    List.mem_cons_self
  have base := SourceFile.part_mem_cursors visited _ isPart
  have entered := SourceFile.enter_inside placed base
  have nested := SourceFile.inside_of_part placed visited isPart
  obtain ⟨behind, spans, inside⟩ := (placed _ visited).2.2
  have first := Nat.lt_of_le_of_lt (Nat.le_trans nested.1 (placed _ base).1) behind
  exact ⟨entered.trans nested, Nat.lt_of_le_of_lt entered.2 behind, first, spans, inside⟩

omit placed in
theorem span_selectorStep (node : Node) (head : Head) (sel : Ident) (selection : Selection) :
    (Node.selectorStep decls node head sel selection).start = sel.head.start ∧
      (Node.selectorStep decls node head sel selection).stop = node.head.stop := by
  unfold Node.selectorStep
  cases selection.kind <;> exact ⟨rfl, rfl⟩

/-- A step is shown behind the receiver that it is taken from. -/
theorem step_shown {cursor next : Cursor} {step : Step} (visited : cursor ∈ file.cursors)
    (goes : cursor.descend? view decls = some (next, step)) :
    next.node.head.Inside cursor.node.head ∧ next.node.head.stop < step.start ∧
      step.start ≤ step.stop ∧ cursor.node.head.start ≤ step.start ∧
      step.stop ≤ cursor.node.head.stop := by
  obtain ⟨node, around⟩ := cursor
  obtain ⟨head, callee, args, spread, inner, x, sel, selection, path, rfl, entered, -, -, rfl, rfl⟩ |
    ⟨head, x, sel, selection, rfl, -, -, rfl, rfl⟩ := descend?_cases view decls goes
  · have isPart : (Frame.callee head args spread, callee) ∈ (Node.call head callee args spread).parts :=
      List.mem_cons_self
    have isCallee := SourceFile.part_mem_cursors visited _ isPart
    have selected := SourceFile.enter_mem_cursors isCallee
    have around := (SourceFile.enter_inside placed isCallee).trans
      (SourceFile.inside_of_part placed visited isPart)
    rw [entered] at selected around
    obtain ⟨nested, behind, -, spans, inside⟩ := selector_shown placed selected
    exact ⟨nested.trans around, behind, Nat.le_trans spans (inside.trans around).2, (inside.trans around).1,
      Nat.le_refl _⟩
  · obtain ⟨nested, behind, -, spans, inside⟩ := selector_shown placed visited
    obtain ⟨start, stop⟩ := @span_selectorStep decls (.selector head x sel (some selection)) head sel selection
    rw [start, stop]
    exact ⟨nested, behind, Nat.le_trans spans inside.2, inside.1, Nat.le_refl _⟩

/-- The end of a descent and its steps are shown from left to right, inside of where it starts. -/
theorem spine_shown {cursor : Cursor} (visited : cursor ∈ file.cursors)
    (plain : cursor.node.isParen = false) :
    ShownInside (cursor.node.spineBy view decls).anchors cursor.node.head := by
  fun_induction trail view decls cursor with
  | case1 cursor next step goes ih =>
    obtain ⟨_, _, _, _, _, _, _, _, _, below⟩ := mem_cursors_of_descend? view decls visited goes
    obtain ⟨nested, behind, spans, first, last⟩ := step_shown view placed visited goes
    rw [spineBy_of_descend? view decls goes, Spine.anchors_extend]
    exact (ih below (isParen_of_descend? view decls goes)).extend nested behind spans first last
  | case2 cursor ends =>
    have well := placed _ visited
    rw [spineBy_of_end view decls ends plain]
    obtain same | ⟨head, x, sel, selection, isSelector, -, same⟩ := ending_cases view decls cursor.node
    · rw [same]
      exact ShownInside.single well.1
    · -- A method of a type is shown as a whole, and as a step from its name.
      obtain ⟨node, path⟩ := cursor
      cases isSelector
      obtain ⟨-, -, first, spans, inside⟩ := selector_shown placed visited
      obtain ⟨start, stop⟩ := @span_selectorStep decls (.selector head x sel (some selection)) head sel selection
      rw [same]
      simp only [Spine.anchors, SpineEnd.node, List.map_cons, List.map_nil, start, stop]
      refine ⟨List.forall_mem_cons.mpr ⟨?_, List.forall_mem_singleton.mpr ?_⟩, ?_⟩
      · exact ⟨Nat.le_refl _, well.1, Nat.le_refl _⟩
      · exact ⟨inside.1, Nat.le_trans spans inside.2, Nat.le_refl _⟩
      · exact List.pairwise_pair.mpr first

end Cursor

end Fluent
