import Fluent.Chain.Extract
import Fluent.Obligation.Resolve

/-! Extraction against fixed answers.

Each question that extraction asks is whether a type is a builder. With the answers fixed,
descending and starting a chain are plain functions of the syntax tree. -/

set_option autoImplicit false

namespace Fluent

open Inquiry (View)

/-- Do fixed answers take a type for a builder? -/
def Inquiry.View.isBuilder (view : View) (decls : Declarations) (type : Option Ty) : Bool :=
  (Inquiry.isBuilder decls type).runWith view

def Inquiry.View.isTerminal (view : View) (func : Option FuncId) : Bool :=
  (Inquiry.isTerminal func).runWith view

variable (view : View) (decls : Declarations)

namespace Inquiry

@[simp] theorem runWith_isBuilder (type : Option Ty) :
    (Inquiry.isBuilder decls type).runWith view = view.isBuilder decls type := by
  rw [View.isBuilder]

@[simp] theorem runWith_isTerminal (func : Option FuncId) :
    (Inquiry.isTerminal func).runWith view = view.isTerminal func := by
  rw [View.isTerminal]

theorem View.isBuilder_eq (type : Option Ty) :
    view.isBuilder decls type = ((Inquiry.factsOf decls type).runWith view).isSome := by
  simp only [View.isBuilder, Inquiry.isBuilder, runWith_bind, runWith_pure]

theorem View.isBuilder_congr {first second : Option Ty}
    (same : first.bind decls.base? = second.bind decls.base?) :
    view.isBuilder decls first = view.isBuilder decls second := by
  simp only [View.isBuilder_eq, Inquiry.factsOf, same]

theorem View.isBuilder_of_base_eq_none {type : Option Ty} (missing : type.bind decls.base? = none) :
    view.isBuilder decls type = false := by
  simp only [View.isBuilder_eq, Inquiry.factsOf, missing]
  rfl

end Inquiry

namespace Node

/-- The descent from a node against fixed answers. -/
def spineBy (node : Node) : Spine := (node.spine decls).runWith view

/-- The step that a selector makes if it is no callee. -/
def selectorStep (node : Node) (head : Head) (sel : Ident) (selection : Selection) : Step :=
  match selection.kind with
  | .field => { expr := node.ref, sel, method := none, result := head.type }
  | _ => { expr := node.ref, sel, method := selection.method, result := decls.methodResult? selection }

def callStep (call : Node) (sel : Ident) (selection : Selection) : Step :=
  { expr := call.ref, sel, method := selection.method, result := call.head.type }

theorem spineBy_paren (head : Head) (x : Node) :
    (Node.paren head x).spineBy view decls = x.spineBy view decls := by
  simp only [spineBy, spine]

theorem spineBy_unparen (node : Node) : node.unparen.spineBy view decls = node.spineBy view decls := by
  fun_induction unparen node with
  | case1 head x ih => rw [ih, spineBy_paren]
  | case2 node _ => rfl

theorem calleeSpine_unparen (call callee : Node) :
    calleeSpine decls call callee.unparen = calleeSpine decls call callee := by
  fun_induction unparen callee with
  | case1 head x ih => rw [ih, calleeSpine]
  | case2 callee _ => rfl

end Node

end Fluent
