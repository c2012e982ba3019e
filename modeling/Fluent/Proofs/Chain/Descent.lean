import Fluent.Proofs.Chain.Answers
import Fluent.Proofs.Syntax.Cursor

/-! The descent from the outermost expression of a chain to its root.

The descent goes from position to position. At each one it takes a step to the receiver of
a call or of a selection, or it ends. In a well-typed file each receiver that it comes to is
a builder. -/

set_option autoImplicit false

namespace Fluent

open Inquiry (View)

/-- The position inside any number of parentheses. -/
def Node.enter (path : List Frame) : Node → Cursor
  | .paren head x => x.enter (.paren head :: path)
  | node => ⟨node, path⟩

def Node.isParen : Node → Bool
  | .paren _ _ => true
  | _ => false

namespace Node

theorem node_enter (node : Node) (path : List Frame) : (node.enter path).node = node.unparen := by
  fun_induction Node.enter path node with
  | case1 path head x ih => rw [ih, unparen]
  | case2 path node plain => cases node <;> simp_all [unparen]

theorem isParen_enter (node : Node) (path : List Frame) : (node.enter path).node.isParen = false := by
  fun_induction Node.enter path node with
  | case1 path head x ih => exact ih
  | case2 path node plain => cases node <;> simp_all [isParen]

theorem enter_of_plain {node : Node} (plain : node.isParen = false) (path : List Frame) :
    node.enter path = ⟨node, path⟩ := by
  cases node <;> simp_all [enter, isParen]

theorem sizeOf_unparen_le (node : Node) : sizeOf node.unparen ≤ sizeOf node := by
  fun_induction unparen node with
  | case1 head x ih => simp only [paren.sizeOf_spec]; omega
  | case2 node _ => exact Nat.le_refl _

end Node

theorem SourceFile.enter_mem_cursors {file : SourceFile} {node : Node} {path : List Frame}
    (visited : ⟨node, path⟩ ∈ file.cursors) : node.enter path ∈ file.cursors := by
  fun_induction Node.enter path node with
  | case1 path head x ih =>
    exact ih (part_mem_cursors visited (.paren head, x) List.mem_cons_self)
  | case2 path node _ => exact visited

namespace Cursor

variable (view : View) (decls : Declarations)

/-- The receiver of the step at a position, and the step. -/
def descend? (cursor : Cursor) : Option (Cursor × Step) :=
  match cursor.node with
  | .call head callee args spread =>
    match callee.enter (.callee head args spread :: cursor.path) with
    | ⟨.selector inner x sel (some selection), path⟩ =>
      if selection.kind = .methodValue ∧ view.isBuilder decls (some selection.receiver) = true then
        some (x.enter (.selectorBase inner sel (some selection) :: path),
          Node.callStep (.call head callee args spread) sel selection)
      else none
    | _ => none
  | .selector head x sel (some selection) =>
    if selection.kind ≠ .methodExpr ∧ view.isBuilder decls (some selection.receiver) = true then
      some (x.enter (.selectorBase head sel (some selection) :: cursor.path),
        Node.selectorStep decls (.selector head x sel (some selection)) head sel selection)
    else none
  | _ => none

theorem descend?_cases {cursor next : Cursor} {step : Step}
    (goes : cursor.descend? view decls = some (next, step)) :
    (∃ head callee args spread inner x sel selection path,
      cursor.node = .call head callee args spread ∧
      callee.enter (.callee head args spread :: cursor.path) =
        ⟨.selector inner x sel (some selection), path⟩ ∧
      selection.kind = .methodValue ∧ view.isBuilder decls (some selection.receiver) = true ∧
      next = x.enter (.selectorBase inner sel (some selection) :: path) ∧
      step = Node.callStep cursor.node sel selection) ∨
    (∃ head x sel selection,
      cursor.node = .selector head x sel (some selection) ∧
      selection.kind ≠ .methodExpr ∧ view.isBuilder decls (some selection.receiver) = true ∧
      next = x.enter (.selectorBase head sel (some selection) :: cursor.path) ∧
      step = Node.selectorStep decls cursor.node head sel selection) := by
  unfold descend? at goes
  split at goes
  next head callee args spread isCall =>
    split at goes
    next inner x sel selection path entered =>
      split at goes
      next fits =>
        cases goes
        exact Or.inl ⟨head, callee, args, spread, inner, x, sel, selection, path, isCall, entered,
          fits.1, fits.2, rfl, by rw [isCall]⟩
      next => cases goes
    next => cases goes
  next head x sel selection isSelector =>
    split at goes
    next fits =>
      cases goes
      exact Or.inr ⟨head, x, sel, selection, isSelector, fits.1, fits.2, rfl, by rw [isSelector]⟩
    next => cases goes
  next => cases goes

/-- What a descent comes to where it ends: a method of a type is root and first step at once. -/
def ending (node : Node) : Spine :=
  match node with
  | .selector head x sel (some selection) =>
    if view.isBuilder decls (some selection.receiver) = true then
      { steps := [Node.selectorStep decls (.selector head x sel (some selection)) head sel selection]
        base := .methodExpr (.selector head x sel (some selection)) selection.receiver selection.method }
    else .of (.selector head x sel (some selection))
  | node => .of node

theorem ending_cases (node : Node) :
    ending view decls node = .of node ∨
    ∃ head x sel selection, node = .selector head x sel (some selection) ∧
      view.isBuilder decls (some selection.receiver) = true ∧
      ending view decls node =
        { steps := [Node.selectorStep decls node head sel selection]
          base := .methodExpr node selection.receiver selection.method } := by
  unfold ending
  split
  next head x sel selection =>
    by_cases builder : view.isBuilder decls (some selection.receiver) = true
    · exact Or.inr ⟨head, x, sel, selection, rfl, builder, if_pos builder⟩
    · exact Or.inl (if_neg builder)
  next => exact Or.inl rfl

theorem spineBy_of_descend? {cursor next : Cursor} {step : Step}
    (goes : cursor.descend? view decls = some (next, step)) :
    cursor.node.spineBy view decls = (next.node.spineBy view decls).extend step := by
  obtain ⟨head, callee, args, spread, inner, x, sel, selection, path, isCall, entered, kind, builder,
    rfl, rfl⟩ | ⟨head, x, sel, selection, isSelector, kind, builder, rfl, rfl⟩ :=
    descend?_cases view decls goes
  · have stripped : callee.unparen = .selector inner x sel (some selection) := by
      rw [← Node.node_enter, entered]
    rw [Node.node_enter, Node.spineBy_unparen, isCall]
    simp only [Node.spineBy, Node.spine]
    rw [← Node.calleeSpine_unparen, stripped]
    simp [Node.calleeSpine, kind, builder, Node.callStep]
  · rw [Node.node_enter, Node.spineBy_unparen, isSelector]
    cases isKind : selection.kind <;>
      simp_all [Node.spineBy, Node.spine, Node.selectorStep]

theorem spineBy_of_end {cursor : Cursor} (ends : cursor.descend? view decls = none)
    (plain : cursor.node.isParen = false) :
    cursor.node.spineBy view decls = ending view decls cursor.node := by
  obtain ⟨node, path⟩ := cursor
  cases node with
  | call head callee args spread =>
    simp only [Node.spineBy, Node.spine, ending]
    rw [← Node.calleeSpine_unparen]
    have stripped := Node.node_enter callee (.callee head args spread :: path)
    have inParens := Node.isParen_enter callee (.callee head args spread :: path)
    -- Only what stands inside the parentheses of the callee decides.
    rcases entered : callee.enter (.callee head args spread :: path) with ⟨inside, around⟩
    simp only [entered] at stripped inParens
    simp only [descend?, entered] at ends
    rw [← stripped]
    cases inside with
    | paren head x => simp [Node.isParen] at inParens
    | selector inner x sel selection =>
      cases selection with
      | none => rfl
      | some selection =>
        have refused : ¬(selection.kind = .methodValue ∧
            view.isBuilder decls (some selection.receiver) = true) := by
          simpa using ends
        by_cases kind : selection.kind = .methodValue
        · have other : view.isBuilder decls (some selection.receiver) = false := by
            simpa [kind] using refused
          simp [Node.calleeSpine, kind, other]
        · simp [Node.calleeSpine, kind]
    | _ => rfl
  | selector head x sel selection =>
    cases selection with
    | none => rfl
    | some selection =>
      cases builder : view.isBuilder decls (some selection.receiver) with
      | false => simp [Node.spineBy, Node.spine, ending, builder]
      | true =>
        have kind : selection.kind = .methodExpr := by simpa [descend?, builder] using ends
        simp [Node.spineBy, Node.spine, ending, Node.selectorStep, builder, kind]
  | paren head x => simp [Node.isParen] at plain
  | _ => simp [Node.spineBy, Node.spine, ending]

theorem isParen_of_descend? {cursor next : Cursor} {step : Step}
    (goes : cursor.descend? view decls = some (next, step)) : next.node.isParen = false := by
  obtain ⟨_, _, _, _, _, _, _, _, _, _, _, _, _, rfl, _⟩ | ⟨_, _, _, _, _, _, _, rfl, _⟩ :=
    descend?_cases view decls goes
  all_goals exact Node.isParen_enter _ _

theorem sizeOf_of_descend? {cursor next : Cursor} {step : Step}
    (goes : cursor.descend? view decls = some (next, step)) :
    sizeOf next.node < sizeOf cursor.node := by
  obtain ⟨head, callee, args, spread, inner, x, sel, selection, path, isCall, entered, _, _, rfl, _⟩ |
    ⟨head, x, sel, selection, isSelector, _, _, rfl, _⟩ := descend?_cases view decls goes
  · have stripped : sizeOf (Node.selector inner x sel (some selection)) ≤ sizeOf callee := by
      have same := callee.sizeOf_unparen_le
      rwa [← Node.node_enter callee (.callee head args spread :: cursor.path), entered] at same
    have inside := x.sizeOf_unparen_le
    rw [Node.node_enter, isCall]
    simp only [Node.selector.sizeOf_spec, Node.call.sizeOf_spec] at stripped ⊢
    omega
  · have inside := x.sizeOf_unparen_le
    rw [Node.node_enter, isSelector]
    simp only [Node.selector.sizeOf_spec]
    omega

theorem mem_cursors_of_descend? {file : SourceFile} {cursor next : Cursor} {step : Step}
    (visited : cursor ∈ file.cursors) (goes : cursor.descend? view decls = some (next, step)) :
    ∃ head x sel selection path,
      (⟨.selector head x sel (some selection), path⟩ : Cursor) ∈ file.cursors ∧
      next = x.enter (.selectorBase head sel (some selection) :: path) ∧
      selection.kind ≠ .methodExpr ∧ view.isBuilder decls (some selection.receiver) = true ∧
      next ∈ file.cursors := by
  -- In both cases the receiver is entered from a selector that is visited.
  have receiver {head : Head} {x : Node} {sel : Ident} {selection : Selection} {path : List Frame}
      (selected : (⟨.selector head x sel (some selection), path⟩ : Cursor) ∈ file.cursors) :
      x.enter (.selectorBase head sel (some selection) :: path) ∈ file.cursors :=
    SourceFile.enter_mem_cursors (SourceFile.part_mem_cursors selected
      (.selectorBase head sel (some selection), x) List.mem_cons_self)
  obtain ⟨node, around⟩ := cursor
  obtain ⟨head, callee, args, spread, inner, x, sel, selection, path, rfl, entered, kind, builder,
    rfl, _⟩ | ⟨head, x, sel, selection, rfl, kind, builder, rfl, _⟩ := descend?_cases view decls goes
  · have selected := SourceFile.enter_mem_cursors (SourceFile.part_mem_cursors visited
      (.callee head args spread, callee) List.mem_cons_self)
    rw [entered] at selected
    exact ⟨inner, x, sel, selection, path, selected, rfl, by simp [kind], builder, receiver selected⟩
  · exact ⟨head, x, sel, selection, around, visited, rfl, kind, builder, receiver visited⟩

end Cursor

/-- The receiver of a selection leads to the same declared type as the expression that is selected
from, and a method that is selected has a function's type, not that of a builder. -/
def Node.WellTyped (decls : Declarations) : Node → Prop
  | .selector head x _ (some selection) =>
    (decls.typeOf x.unparen).bind decls.base? = decls.base? selection.receiver ∧
      (selection.kind ≠ .field → head.type.bind decls.base? = none)
  | _ => True

instance (decls : Declarations) : (node : Node) → Decidable (node.WellTyped decls)
  | .selector _ _ _ (some _) => inferInstanceAs (Decidable (_ ∧ _))
  | .selector _ _ _ none | .ident _ | .typeExpr _ | .paren _ _ | .index _ _ _ | .indexList _ _ _
  | .call _ _ _ _ | .composite _ _ _ | .unary _ _ _ | .keyValue _ _ _ | .funcLit _ _ | .discard _ _ _
  | .send _ _ _ | .assign _ _ _ | .ret _ _ | .valueSpec _ _ _ _ | .typeSpec _ _ | .genDecl _ _ _
  | .funcDecl _ _ _ _ _ | .other _ _ _ => .isTrue trivial

def SourceFile.WellTyped (file : SourceFile) (decls : Declarations) : Prop :=
  ∀ cursor ∈ file.cursors, cursor.node.WellTyped decls

instance (file : SourceFile) (decls : Declarations) : Decidable (file.WellTyped decls) :=
  inferInstanceAs (Decidable (∀ cursor ∈ file.cursors, cursor.node.WellTyped decls))

/-- The type of the value that a chain starts from. -/
def SpineEnd.type (decls : Declarations) : SpineEnd → Option Ty
  | .operand node => decls.typeOf node
  | .methodExpr _ receiver _ => some receiver

namespace Cursor

variable (view : View) {decls : Declarations} {file : SourceFile} (typed : file.WellTyped decls)

theorem typeOf_selector (head : Head) (x : Node) (sel : Ident) (selection : Option Selection) :
    decls.typeOf (.selector head x sel selection) = head.type := by
  cases known : head.type <;> simp [Declarations.typeOf, Node.head, known]

theorem typeOf_call (head : Head) (callee : Node) (args : List Node) (spread : Bool) :
    decls.typeOf (.call head callee args spread) = head.type := by
  cases known : head.type <;> simp [Declarations.typeOf, Node.head, known]

include typed

theorem receiver_isBuilder {cursor next : Cursor} {step : Step} (visited : cursor ∈ file.cursors)
    (goes : cursor.descend? view decls = some (next, step)) :
    view.isBuilder decls (decls.typeOf next.node) = true := by
  obtain ⟨head, x, sel, selection, path, selected, rfl, _, builder, _⟩ :=
    mem_cursors_of_descend? view decls visited goes
  have same := (typed _ selected).1
  rw [Node.node_enter, ← builder]
  exact view.isBuilder_congr decls same

theorem selector_not_isBuilder {head : Head} {x : Node} {sel : Ident} {selection : Selection}
    {path : List Frame} (visited : ⟨.selector head x sel (some selection), path⟩ ∈ file.cursors)
    (kind : selection.kind ≠ .field) :
    view.isBuilder decls (decls.typeOf (.selector head x sel (some selection))) = false := by
  rw [typeOf_selector]
  exact view.isBuilder_of_base_eq_none decls ((typed _ visited).2 kind)

theorem result_isBuilder {cursor next : Cursor} {step : Step} (visited : cursor ∈ file.cursors)
    (goes : cursor.descend? view decls = some (next, step))
    (builder : view.isBuilder decls (decls.typeOf cursor.node) = true) :
    view.isBuilder decls step.result = true := by
  obtain ⟨node, path⟩ := cursor
  obtain ⟨head, callee, args, spread, _, _, sel, selection, _, rfl, _, _, _, _, rfl⟩ |
    ⟨head, x, sel, selection, rfl, _, _, _, rfl⟩ := descend?_cases view decls goes
  · rw [typeOf_call] at builder
    exact builder
  · by_cases kind : selection.kind = .field
    · rw [typeOf_selector] at builder
      simpa only [Node.selectorStep, kind] using builder
    · rw [selector_not_isBuilder view typed visited kind] at builder
      cases builder

/-- If the value at a position is a builder, then so are the root of the descent from there and
the values of all steps. -/
theorem spine_isBuilder {cursor : Cursor} (visited : cursor ∈ file.cursors)
    (plain : cursor.node.isParen = false)
    (builder : view.isBuilder decls (decls.typeOf cursor.node) = true) :
    view.isBuilder decls ((cursor.node.spineBy view decls).base.type decls) = true ∧
      ∀ step ∈ (cursor.node.spineBy view decls).steps, view.isBuilder decls step.result = true := by
  -- The receiver is a smaller node, but no direct part of the node, so the induction is on size.
  induction size : sizeOf cursor.node using Nat.strongRecOn generalizing cursor with
  | ind n ih =>
    cases goes : cursor.descend? view decls with
    | some found =>
      obtain ⟨next, step⟩ := found
      obtain ⟨_, _, _, _, _, _, _, _, _, below⟩ := mem_cursors_of_descend? view decls visited goes
      have smaller := sizeOf_of_descend? view decls goes
      obtain ⟨root, steps⟩ := ih _ (size ▸ smaller) below (isParen_of_descend? view decls goes)
        (receiver_isBuilder view typed visited goes) rfl
      rw [spineBy_of_descend? view decls goes]
      refine ⟨root, fun other member => ?_⟩
      rcases List.mem_append.mp member with member | member
      · exact steps other member
      · rw [List.mem_singleton.mp member]
        exact result_isBuilder view typed visited goes builder
    | none =>
      rw [spineBy_of_end view decls goes plain]
      obtain same | ⟨head, x, sel, selection, isSelector, receiver, _⟩ :=
        ending_cases view decls cursor.node
      · rw [same]
        exact ⟨builder, fun _ member => nomatch member⟩
      · -- The end is a method of a type, whose value is no builder.
        obtain ⟨node, path⟩ := cursor
        subst isSelector
        have kind : selection.kind = .methodExpr := by simpa [descend?, receiver] using goes
        rw [selector_not_isBuilder view typed visited (by simp [kind])] at builder
        cases builder

/-- The root of the descent from the outermost expression of a chain is a builder, and so are the
values of all steps but the last. -/
theorem outer_spine_isBuilder {cursor : Cursor} (visited : cursor ∈ file.cursors)
    (plain : cursor.node.isParen = false)
    (starts : (cursor.descend? view decls).isSome = true ∨
      view.isBuilder decls (decls.typeOf cursor.node) = true ∨
      ∃ head x sel selection, cursor.node = .selector head x sel (some selection) ∧
        view.isBuilder decls (some selection.receiver) = true) :
    view.isBuilder decls ((cursor.node.spineBy view decls).base.type decls) = true ∧
      ∀ step ∈ (cursor.node.spineBy view decls).steps.dropLast,
        view.isBuilder decls step.result = true := by
  cases goes : cursor.descend? view decls with
  | some found =>
    obtain ⟨next, step⟩ := found
    obtain ⟨_, _, _, _, _, _, _, _, _, below⟩ := mem_cursors_of_descend? view decls visited goes
    have inner := spine_isBuilder view typed below (isParen_of_descend? view decls goes)
      (receiver_isBuilder view typed visited goes)
    rw [spineBy_of_descend? view decls goes]
    simpa [Spine.extend] using inner
  | none =>
    rw [spineBy_of_end view decls goes plain]
    obtain same | ⟨head, x, sel, selection, isSelector, receiver, same⟩ :=
      ending_cases view decls cursor.node
    · rw [same]
      refine ⟨?_, fun _ member => nomatch member⟩
      rw [goes] at starts
      obtain missing | builder | ⟨head, x, sel, selection, isSelector, receiver⟩ := starts
      · cases missing
      · exact builder
      · simp [ending, isSelector, receiver, Spine.of] at same
    · rw [same]
      exact ⟨receiver, fun _ member => nomatch member⟩

end Cursor

end Fluent
