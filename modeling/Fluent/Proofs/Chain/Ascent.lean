import Fluent.Proofs.Chain.Extraction

/-! The way back from a position to where a descent came from.

Leaving parentheses undoes entering them, so the selector from which a descent came to a
position can be told from the position. The step was taken there, or at the call whose
callee the selector is. -/

set_option autoImplicit false

namespace Fluent

open Inquiry (View)

namespace Cursor

def up : Cursor → Cursor
  | ⟨node, frame :: path⟩ => ⟨frame.plug node, path⟩
  | ⟨node, []⟩ => ⟨node, []⟩

/-- Is the expression at a position the callee of a call, up to parentheses? -/
def isDirectCallee (cursor : Cursor) : Bool :=
  match cursor.outOfParens.path with
  | frame :: _ => frame.isCallee
  | [] => false

theorem outOfParens_enter (node : Node) (path : List Frame) :
    (node.enter path).outOfParens = climbFrom Frame.isParen node path := by
  fun_induction Node.enter path node with
  | case1 path head x ih => rw [ih, climbFrom]; rfl
  | case2 path node _ => rfl

theorem outOfParens_enter_of_not_paren (node : Node) (frame : Frame) (path : List Frame)
    (other : frame.isParen = false) : (node.enter (frame :: path)).outOfParens = ⟨node, frame :: path⟩ := by
  rw [outOfParens_enter, climbFrom, other]
  rfl

theorem enter_climbFrom (node : Node) (path : List Frame) :
    (climbFrom Frame.isParen node path).node.enter (climbFrom Frame.isParen node path).path =
      node.enter path := by
  induction path generalizing node with
  | nil => rfl
  | cons frame path ih =>
    cases frame with
    | paren head => exact ih (.paren head node)
    | _ => rfl

theorem enter_outOfParens {cursor : Cursor} (plain : cursor.node.isParen = false) :
    cursor.outOfParens.node.enter cursor.outOfParens.path = cursor := by
  rw [outOfParens, enter_climbFrom]
  exact Node.enter_of_plain plain cursor.path

theorem length_path_enter (node : Node) (path : List Frame) :
    path.length ≤ (node.enter path).path.length := by
  fun_induction Node.enter path node with
  | case1 path head x ih => exact Nat.le_of_succ_le ih
  | case2 path node _ => exact Nat.le_refl _

theorem length_path_climbFrom (fits : Frame → Bool) (node : Node) (path : List Frame) :
    (climbFrom fits node path).path.length ≤ path.length := by
  induction path generalizing node with
  | nil => exact Nat.le_refl _
  | cons frame path ih =>
    unfold climbFrom
    split
    · exact Nat.le_succ_of_le (ih _)
    · exact Nat.le_refl _

theorem climbFrom_mem_cursors {file : SourceFile} (fits : Frame → Bool) {node : Node} {path : List Frame}
    (visited : ⟨node, path⟩ ∈ file.cursors) : climbFrom fits node path ∈ file.cursors := by
  induction path generalizing node with
  | nil => exact visited
  | cons frame path ih =>
    unfold climbFrom
    split
    · exact ih (SourceFile.parent_mem_cursors visited).1
    · exact visited

theorem outOfParens_mem_cursors {file : SourceFile} {cursor : Cursor} (visited : cursor ∈ file.cursors) :
    cursor.outOfParens ∈ file.cursors :=
  climbFrom_mem_cursors Frame.isParen visited

theorem up_mem_cursors {file : SourceFile} {cursor : Cursor} (visited : cursor ∈ file.cursors) :
    cursor.up ∈ file.cursors := by
  obtain ⟨node, path⟩ := cursor
  cases path with
  | nil => exact visited
  | cons frame path => exact (SourceFile.parent_mem_cursors visited).1

variable (view : View) (decls : Declarations)

/-- A descent comes to the receiver of a selector from there, or from a call of it. -/
theorem source_of_descend? {cursor next : Cursor} {step : Step}
    (goes : cursor.descend? view decls = some (next, step)) :
    ∃ head x sel selection path,
      next.outOfParens = ⟨x, .selectorBase head sel (some selection) :: path⟩ ∧
      selection.kind ≠ .methodExpr ∧ view.isBuilder decls (some selection.receiver) = true ∧
      path.length < next.path.length ∧
      (cursor = ⟨.selector head x sel (some selection), path⟩ ∨
        (selection.kind = .methodValue ∧ cursor.path.length < path.length ∧
          (⟨.selector head x sel (some selection), path⟩ : Cursor).isDirectCallee = true ∧
          cursor = (⟨.selector head x sel (some selection), path⟩ : Cursor).outOfParens.up)) := by
  obtain ⟨node, around⟩ := cursor
  obtain ⟨head, callee, args, spread, inner, x, sel, selection, path, rfl, entered, kind, builder,
    rfl, _⟩ | ⟨head, x, sel, selection, rfl, kind, builder, rfl, _⟩ := descend?_cases view decls goes
  · -- The step is taken at the call, with the selector between the two positions.
    have above := outOfParens_enter_of_not_paren callee (.callee head args spread) around rfl
    rw [entered] at above
    have deeper := length_path_enter callee (.callee head args spread :: around)
    rw [entered] at deeper
    refine ⟨inner, x, sel, selection, path, outOfParens_enter_of_not_paren x _ path rfl, by simp [kind],
      builder, length_path_enter x (.selectorBase inner sel (some selection) :: path),
      Or.inr ⟨kind, deeper, ?_, ?_⟩⟩
    · rw [isDirectCallee, above]
      rfl
    · rw [above]
      rfl
  · exact ⟨head, x, sel, selection, around, outOfParens_enter_of_not_paren x _ around rfl, kind, builder,
      length_path_enter x (.selectorBase head sel (some selection) :: around), Or.inl rfl⟩

theorem length_path_of_descend? {cursor next : Cursor} {step : Step}
    (goes : cursor.descend? view decls = some (next, step)) : cursor.path.length < next.path.length := by
  obtain ⟨_, _, _, _, path, _, _, _, deeper, rfl | ⟨_, higher, _, _⟩⟩ :=
    source_of_descend? view decls goes
  · exact deeper
  · exact Nat.lt_trans higher deeper

theorem isSelected_of_descend? {cursor next : Cursor} {step : Step}
    (goes : cursor.descend? view decls = some (next, step)) : Scene.isSelected next = true := by
  obtain ⟨head, x, sel, selection, path, around, kind, _⟩ := source_of_descend? view decls goes
  simp [Scene.isSelected, around, kind]

/-- Two descents come to a position from the same one, or from a selector and its call. -/
theorem descend?_unique {first second next : Cursor} {step other : Step}
    (goes : first.descend? view decls = some (next, step))
    (also : second.descend? view decls = some (next, other)) :
    first = second ∨
      ∃ selected, (selected = first ∨ selected = second) ∧ selected.isDirectCallee = true ∧
        ∃ head x sel selection, selected.node = .selector head x sel (some selection) ∧
          selection.kind = .methodValue ∧ view.isBuilder decls (some selection.receiver) = true := by
  obtain ⟨head, x, sel, selection, path, around, _, builder, _, taken⟩ :=
    source_of_descend? view decls goes
  obtain ⟨head', x', sel', selection', path', around', _, _, _, taken'⟩ :=
    source_of_descend? view decls also
  -- The frame above the common position is the selector of both.
  rw [around] at around'
  cases around'
  rcases taken with rfl | ⟨kind, _, called, rfl⟩
  · rcases taken' with rfl | ⟨kind, _, called, rfl⟩
    · exact Or.inl rfl
    · exact Or.inr ⟨_, Or.inl rfl, called, head, x, sel, selection, rfl, kind, builder⟩
  · rcases taken' with rfl | ⟨_, _, _, rfl⟩
    · exact Or.inr ⟨_, Or.inr rfl, called, head, x, sel, selection, rfl, kind, builder⟩
    · exact Or.inl rfl

theorem isCalled_of_isDirectCallee {cursor : Cursor} (callee : cursor.isDirectCallee = true) :
    decls.isCalled cursor = true := by
  unfold isDirectCallee at callee
  split at callee
  next frame path around =>
    cases frame with
    | callee head args spread =>
      rcases same : cursor.outOfParens with ⟨node, above⟩
      rw [same] at around
      cases around
      rw [Declarations.isCalled, same]
      rfl
    | _ => cases callee
  next => cases callee

/-- The selection of a builder's field or method goes down to the builder, where it stands for
itself. -/
theorem descend?_selector {cursor : Cursor} {head : Head} {x : Node} {sel : Ident}
    {selection : Selection} {path : List Frame} (plain : cursor.node.isParen = false)
    (around : cursor.outOfParens = ⟨x, .selectorBase head sel (some selection) :: path⟩)
    (kind : selection.kind ≠ .methodExpr) (builder : view.isBuilder decls (some selection.receiver) = true) :
    ∃ step, (⟨.selector head x sel (some selection), path⟩ : Cursor).descend? view decls =
      some (cursor, step) := by
  have inside : x.enter (.selectorBase head sel (some selection) :: path) = cursor := by
    rw [← enter_outOfParens plain, around]
  refine ⟨Node.selectorStep decls (.selector head x sel (some selection)) head sel selection, ?_⟩
  simp only [descend?, kind, builder, ne_eq, not_false_eq_true, and_self, if_true, inside]

theorem descend?_call {cursor : Cursor} {head : Head} {x : Node} {sel : Ident}
    {selection : Selection} {path : List Frame} (plain : cursor.node.isParen = false)
    (around : cursor.outOfParens = ⟨x, .selectorBase head sel (some selection) :: path⟩)
    (kind : selection.kind = .methodValue) (builder : view.isBuilder decls (some selection.receiver) = true)
    (called : (⟨.selector head x sel (some selection), path⟩ : Cursor).isDirectCallee = true) :
    ∃ callHead callee args spread above step,
      (⟨.selector head x sel (some selection), path⟩ : Cursor).outOfParens.up =
        ⟨.call callHead callee args spread, above⟩ ∧
      callee.unparen = .selector head x sel (some selection) ∧ above.length < path.length ∧
      (⟨.call callHead callee args spread, above⟩ : Cursor).descend? view decls = some (cursor, step) := by
  have inside : x.enter (.selectorBase head sel (some selection) :: path) = cursor := by
    rw [← enter_outOfParens plain, around]
  have selected := @enter_outOfParens ⟨.selector head x sel (some selection), path⟩ rfl
  have shorter := length_path_climbFrom Frame.isParen (.selector head x sel (some selection)) path
  unfold isDirectCallee at called
  rcases out : (⟨.selector head x sel (some selection), path⟩ : Cursor).outOfParens with ⟨callee, above⟩
  rw [out] at called selected
  rw [outOfParens] at out
  simp only [out] at shorter
  -- Out of its parentheses, the selector has the call right above it.
  cases above with
  | nil => cases called
  | cons frame above =>
    cases frame with
    | callee callHead args spread =>
      refine ⟨callHead, callee, args, spread, above,
        Node.callStep (.call callHead callee args spread) sel selection, rfl, ?_, shorter, ?_⟩
      · rw [← Node.node_enter callee (.callee callHead args spread :: above)]
        exact congrArg Cursor.node selected
      · simp only [descend?, selected, kind, builder, and_self, if_true, inside]
    | _ => cases called

end Cursor

end Fluent
