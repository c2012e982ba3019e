import Fluent.Chain.Context
import Fluent.Index.Inquiry
import Fluent.Types.Members

/-! The spine of a chain: the descent from its outermost expression to its root. -/

set_option autoImplicit false

namespace Fluent

inductive SpineEnd where
  | operand (node : Node)
  | methodExpr (node : Node) (receiver : Ty) (method : Option FuncId)

structure Spine where
  /-- The steps from the end of the descent outwards. -/
  steps : List Step
  base : SpineEnd

def Spine.extend (spine : Spine) (step : Step) : Spine :=
  { spine with steps := spine.steps ++ [step] }

def Spine.of (node : Node) : Spine :=
  { steps := [], base := .operand node }

/-- The result of a selected method, with the receiver's type arguments filled in. -/
def Declarations.methodResult? (decls : Declarations) (selection : Selection) : Option Ty :=
  selection.method.bind fun func =>
    match decls.method? selection.receiver (decls.functionPackage func) (decls.functionNamed func) with
    | some method => decls.resultOf? (if method.func = func then method else .plain func)
    | none => decls.resultOf? (.plain func)

namespace Node

variable (decls : Declarations)

mutual

/-- Go down through the receivers of calls and selections of builders. -/
def spine : Node → Inquiry Spine
  | .paren _ x => x.spine
  | .call head callee args spread => calleeSpine (.call head callee args spread) callee
  | .selector head x sel none => return .of (.selector head x sel none)
  | .selector head x sel (some selection) => do
    let node := Node.selector head x sel (some selection)
    if ← Inquiry.isBuilder decls (some selection.receiver) then
      match selection.kind with
      | .field =>
        return (← x.spine).extend { expr := node.ref, sel, method := none, result := head.type }
      | .methodValue =>
        return (← x.spine).extend
          { expr := node.ref, sel, method := selection.method, result := decls.methodResult? selection }
      | .methodExpr =>
        return {
          steps := [{ expr := node.ref, sel, method := selection.method,
                      result := decls.methodResult? selection }]
          base := .methodExpr node selection.receiver selection.method }
    else return .of node
  | node => return .of node

/-- Go down from a call whose callee is given. The descent goes on if the callee is a method of
a builder, and ends at the call otherwise. -/
def calleeSpine (call : Node) : Node → Inquiry Spine
  | .paren _ x => calleeSpine call x
  | .selector _ x sel (some selection) => do
    if selection.kind = .methodValue then
      if ← Inquiry.isBuilder decls (some selection.receiver) then
        return (← x.spine).extend
          { expr := call.ref, sel, method := selection.method, result := call.head.type }
      else return .of call
    else return .of call
  | _ => return .of call

end

/-- The function that the callee of a call names, if it names one: type arguments and
parentheses do not count. -/
def calledFunction? (callee : Node) : Option FuncId :=
  let named := match callee.unparen with
    | .index head x i => if i.isType then x.unparen else .index head x i
    | .indexList _ x _ => x.unparen
    | node => node
  match named with
  | .ident id => id.use
  | .selector _ _ sel _ => sel.use
  | _ => none

end Node

end Fluent
