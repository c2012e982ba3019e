import Fluent.Proofs.Chain.Extraction

/-! Parentheses and conversions around an expression.

An expression may be put into a wrapper of any depth at its place in a tree. The way out of the
expression then leads through the wrapper and goes on as if the wrapper were not there, so it
ends below the same parent, and the expression has the same context. -/

set_option autoImplicit false

namespace Fluent

/-- Does the parent put the child in parentheses or convert it to a type? -/
def Frame.isWrapper (frame : Frame) : Bool := frame.isParen || frame.isConversion

/-- What the frames make around a node, the innermost first. -/
def Node.within (node : Node) : List Frame → Node
  | [] => node
  | frame :: path => (frame.plug node).within path

theorem Node.within_append (node : Node) (inner outer : List Frame) :
    node.within (inner ++ outer) = (node.within inner).within outer := by
  induction inner generalizing node with
  | nil => rfl
  | cons frame inner ih => exact ih (frame.plug node)

/-- The whole tree that a position lies in. -/
def Cursor.tree (cursor : Cursor) : Node := cursor.node.within cursor.path

section Replacement

theorem Node.mem_listParts (frame : List Node → List Node → Frame) (passed before : List Node)
    (node : Node) (after : List Node) :
    (frame (passed ++ before) after, node) ∈ listParts frame passed (before ++ node :: after) := by
  induction before generalizing passed with
  | nil => simp [listParts]
  | cons first before ih =>
    have later := ih (passed ++ [first])
    rw [List.append_assoc, List.singleton_append] at later
    exact List.mem_cons_of_mem _ later

/-- A walk enters whatever takes the place of a part that it enters. -/
theorem Frame.replace_part {frame : Frame} {node : Node} (isPart : (frame, node) ∈ (frame.plug node).parts)
    (other : Node) : (frame, other) ∈ (frame.plug other).parts := by
  have inList (around : List Node → List Node → Frame) (before after : List Node) :
      (around before after, other) ∈ Node.listParts around [] (before ++ other :: after) :=
    Node.mem_listParts around [] before other after
  cases frame with
  | body head declares doc receiver =>
    -- Whether a body is entered depends on the comment above the function.
    simp only [plug, Node.parts] at isPart ⊢
    split at isPart
    · cases isPart
    · next entered => simp [entered]
  | indexListArgument head base before after =>
    exact List.mem_cons_of_mem _ (inList (.indexListArgument head base) before after)
  | argument head callee before after spread =>
    exact List.mem_cons_of_mem _
      (inList (fun before after => .argument head callee before after spread) before after)
  | element head type before after =>
    exact List.mem_append_right _ (inList (.element head type) before after)
  | target head before after values =>
    exact List.mem_append_left _ (inList (fun before after => .target head before after values) before after)
  | assigned head targets before after =>
    exact List.mem_append_right _ (inList (.assigned head targets) before after)
  | returned head before after => exact inList (.returned head) before after
  | specName head before after type values =>
    exact List.mem_append_left _
      (inList (fun before after => .specName head before after type values) before after)
  | specValue head names type before after =>
    exact List.mem_append_right _
      (List.mem_append_right _ (inList (.specValue head names type) before after))
  | spec head declaresTypes before after => exact inList (.spec head declaresTypes) before after
  | part head kind before after => exact inList (.part head kind) before after
  | _ => simp [plug, Node.parts]

theorem Frame.isPart_of_isWrapper {frame : Frame} (wraps : frame.isWrapper = true) (node : Node) :
    (frame, node) ∈ (frame.plug node).parts := by
  cases frame with
  | paren head => simp [plug, Node.parts]
  | argument head callee before after spread =>
    exact List.mem_cons_of_mem _ (Node.mem_listParts
      (fun before after => .argument head callee before after spread) [] before node after)
  | _ => cases wraps

theorem Cursor.mem_cursors_tree {node : Node} {path : List Frame}
    (entered : ∀ frame ∈ path, ∀ inner : Node, (frame, inner) ∈ (frame.plug inner).parts) :
    ⟨node, path⟩ ∈ (Cursor.tree ⟨node, path⟩).cursors [] := by
  induction path generalizing node with
  | nil => exact self_mem_cursors node []
  | cons frame path ih =>
    have above : (⟨frame.plug node, path⟩ : Cursor) ∈ ((frame.plug node).within path).cursors [] :=
      ih fun outer member => entered outer (List.mem_cons_of_mem _ member)
    exact part_mem_cursors above (frame, node) (entered frame List.mem_cons_self node)

theorem Cursor.Visits.entered {top : Node} {cursor : Cursor} (visits : Visits ⟨top, []⟩ cursor) :
    cursor.tree = top ∧
      ∀ frame ∈ cursor.path, ∀ inner : Node, (frame, inner) ∈ (frame.plug inner).parts := by
  induction visits with
  | here => exact ⟨rfl, fun frame member => nomatch member⟩
  | @part above frame node _ isPart ih =>
    have whole : frame.plug node = above.node := Node.plug_parts above.node _ isPart
    refine ⟨?_, ?_⟩
    · rw [← ih.1, tree, tree, ← whole]
      rfl
    · rw [← whole] at isPart
      exact List.forall_mem_cons.mpr ⟨fun inner => Frame.replace_part isPart inner, ih.2⟩

end Replacement

namespace Declarations

variable (decls : Declarations)

theorem transparentFrom_wrapper {frame : Frame} (wraps : frame.isWrapper = true) (node : Node)
    (path : List Frame) :
    decls.transparentFrom false node (frame :: path) =
      decls.transparentFrom false (frame.plug node) path := by
  cases frame with
  | paren head => rfl
  | argument head callee before after spread =>
    have converts : callee.isType = true := wraps
    simp [transparentFrom, Frame.isParen, isInstantiation, Frame.isConversion, converts]
  | _ => cases wraps

theorem transparent_wrapped {wrapper : List Frame} (wraps : ∀ frame ∈ wrapper, frame.isWrapper = true)
    (node : Node) (path : List Frame) :
    decls.transparent ⟨node, wrapper ++ path⟩ = decls.transparent ⟨node.within wrapper, path⟩ := by
  induction wrapper generalizing node with
  | nil => rfl
  | cons frame wrapper ih =>
    have first := decls.transparentFrom_wrapper (wraps frame List.mem_cons_self) node (wrapper ++ path)
    rw [transparent, List.cons_append, first]
    exact ih (fun outer member => wraps outer (List.mem_cons_of_mem _ member)) (frame.plug node)

/-- Where the way out of an expression ends depends on the frames only. -/
theorem path_transparentFrom (instantiated : Bool) (first second : Node) (path : List Frame) :
    (decls.transparentFrom instantiated first path).path =
      (decls.transparentFrom instantiated second path).path := by
  induction path generalizing instantiated first second with
  | nil => rfl
  | cons frame path ih =>
    simp only [transparentFrom]
    split
    · exact ih ..
    · split
      · exact ih ..
      · split
        · exact ih ..
        · rfl

/-- Put the expression at a position into parentheses and conversions, any number of them in any
order. Inside its wrapper it has the same context: it is used in the same way, the same type is
expected, and the same node consumes it. A walk that visits the expression in the tree also visits
it inside its wrapper in the changed tree. -/
theorem classify_wrapped (outside : NodeRef) (cursor : Cursor) {wrapper : List Frame}
    (wraps : ∀ frame ∈ wrapper, frame.isWrapper = true) :
    let inside : Cursor := ⟨cursor.node, wrapper ++ cursor.path⟩
    let replaced : Cursor := ⟨cursor.node.within wrapper, cursor.path⟩
    inside.tree = replaced.tree ∧
    (∀ top : Node, cursor ∈ top.cursors [] →
      cursor.tree = top ∧ inside ∈ replaced.tree.cursors []) ∧
    (decls.transparent inside).path = (decls.transparent cursor).path ∧
    decls.classify outside inside = decls.classify outside cursor := by
  intro inside replaced
  have same : inside.tree = replaced.tree := Node.within_append cursor.node wrapper cursor.path
  have ends : (decls.transparent inside).path = (decls.transparent cursor).path := by
    rw [decls.transparent_wrapped wraps]
    exact decls.path_transparentFrom false _ _ cursor.path
  refine ⟨same, fun top visited => ?_, ends, ?_⟩
  · obtain ⟨whole, entered⟩ := ((Cursor.mem_cursors_iff top [] cursor).mp visited).entered
    refine ⟨whole, same ▸ Cursor.mem_cursors_tree fun frame member => ?_⟩
    rcases List.mem_append.mp member with inner | outer
    · exact Frame.isPart_of_isWrapper (wraps frame inner)
    · exact entered frame outer
  · rw [classify, classify, ends]

end Declarations

namespace Sample

/-- The conversion of a value to `int`, with the value in parentheses. -/
def convertedAt (start : Nat) : List Frame :=
  [.paren ⟨start + 4, start + 15, some (.plain 0)⟩,
    .argument ⟨start, start + 16, some (.plain 6)⟩ (.typeExpr ⟨start, start + 3, some (.plain 6)⟩) [] [] false]

/-- The ways out of a result of a function literal. -/
def resultOfLiteral : List Frame :=
  [.returned ⟨30, 60, none⟩ [] [], .part ⟨28, 62, none⟩ .blockStmt [] [],
    .closureBody ⟨20, 62, some (.plain 3)⟩]

/-- In `return int((lib.New()))` the call is still the result of the function literal around it. -/
theorem converted_result_returned :
    (∀ frame ∈ convertedAt 37, frame.isWrapper = true) ∧
      (library.classify ⟨.file, 0, 80⟩ ⟨newCall 42, convertedAt 37 ++ resultOfLiteral⟩).usage = .closure := by
  have wraps : ∀ frame ∈ convertedAt 37, frame.isWrapper = true := by decide
  have context := (library.classify_wrapped ⟨.file, 0, 80⟩ ⟨newCall 42, resultOfLiteral⟩ wraps).2.2.2
  refine ⟨wraps, ?_⟩
  rw [context]
  rfl

end Sample

end Fluent
