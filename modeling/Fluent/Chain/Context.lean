import Fluent.Chain.Basic
import Fluent.Source.File
import Fluent.Types.Declarations

/-! The context of an expression, read off its surroundings. -/

set_option autoImplicit false

namespace Fluent

/-- The type of an expression, if known. The name of a function has the function's type. -/
def Declarations.typeOf (decls : Declarations) (node : Node) : Option Ty :=
  match node.head.type, node with
  | some type, _ => some type
  | none, .ident id =>
    (id.use.bind fun func => decls.functions[func]?).map fun function => .plain function.type
  | none, _ => none

namespace Frame

def isParen : Frame → Bool
  | .paren _ => true
  | _ => false

/-- Does the parent convert the child to a type? -/
def isConversion : Frame → Bool
  | .argument _ f _ _ _ => f.isType
  | _ => false

def isCallee : Frame → Bool
  | .callee _ _ _ => true
  | _ => false

end Frame

namespace Cursor

def climbFrom (fits : Frame → Bool) (node : Node) : List Frame → Cursor
  | [] => { node, path := [] }
  | frame :: path =>
    if fits frame then climbFrom fits (frame.plug node) path else { node, path := frame :: path }

def outOfParens (cursor : Cursor) : Cursor :=
  climbFrom Frame.isParen cursor.node cursor.path

/-- The receiver variable of the enclosing declared function. -/
def receiver? (cursor : Cursor) : Option VarId :=
  cursor.path.findSome? (fun
    | .body _ _ _ receiver => some receiver
    | _ => none) |>.join

def enclosingFunctions (cursor : Cursor) : List FuncId :=
  cursor.path.filterMap fun
    | .body _ declares _ _ => declares
    | _ => none

def statementStart? (cursor : Cursor) : Option Nat :=
  (cursor.path.find? fun frame => frame.kind.isStatement).map fun frame => frame.head.start

end Cursor

namespace Declarations

variable (decls : Declarations)

/-- Does the parent select a generic function's type arguments? It is taken to do so when it
yields a function. -/
def isInstantiation : Frame → Bool
  | .indexBase head _ | .indexListBase head _ => (head.type.bind decls.signature?).isSome
  | _ => false

/-- Go from a generic function to its instantiation. -/
def instantiated (cursor : Cursor) : Cursor :=
  Cursor.climbFrom decls.isInstantiation cursor.node cursor.path

/-- Climb out of parentheses, instantiations and conversions. After an instantiation only a
conversion leads on to further parentheses. -/
def transparentFrom (instantiated : Bool) (node : Node) : List Frame → Cursor
  | [] => { node, path := [] }
  | frame :: path =>
    if frame.isParen && !instantiated then transparentFrom false (frame.plug node) path
    else if decls.isInstantiation frame then transparentFrom true (frame.plug node) path
    else if frame.isConversion then transparentFrom false (frame.plug node) path
    else { node, path := frame :: path }

def transparent (cursor : Cursor) : Cursor :=
  decls.transparentFrom false cursor.node cursor.path

def isCalled (cursor : Cursor) : Bool :=
  match (decls.instantiated cursor.outOfParens).outOfParens.path with
  | frame :: _ => frame.isCallee
  | [] => false

/-- The type of the parameter that takes a numbered argument. -/
def paramType? (callee : Node) (spread : Bool) (number : Nat) : Option Ty :=
  match (decls.typeOf callee).map decls.underlying with
  | some (.func signature) =>
    let count := signature.params.length
    if signature.variadic && count ≤ number + 1 then
      signature.params.getLast?.bind fun last =>
        if spread then some last
        else
          match decls.underlying last with
          | .slice elem => some elem
          | _ => none
    else signature.params[number]?
  | _ => none

/-- The usage and the signature that the innermost enclosing function gives to a returned value. -/
def enclosingSignature? : List Frame → Option (Usage × Option (Signature Ty))
  | [] => none
  | .body _ declares _ _ :: _ =>
    some (.returned, declares.bind fun func => decls.signatureOf? (.plain func))
  | .closureBody head :: _ => some (.closure, head.type.bind decls.signature?)
  | _ :: path => enclosingSignature? path

/-- The context of the result with a number out of `count` results. -/
def returnContext (path : List Frame) (node : NodeRef) (number count : Nat) : Context :=
  match decls.enclosingSignature? path with
  | none => { usage := .other, type := none, node }
  | some (usage, signature) =>
    let type := signature.bind fun signature =>
      if signature.results.length = count then signature.results[number]? else none
    { usage, type, node }

/-- The context of a value stored in one of several targets. -/
def storedContext (targets : List Node) (number : Nat) (node : NodeRef) : Context :=
  match targets[number]? with
  | none => { usage := .other, type := none, node }
  | some target =>
    if target.isBlank then { usage := .statement, type := none, node }
    else { usage := .assignment, type := decls.typeOf target, node }

/-- The context that the parent gives to a child; `outside` stands for a missing parent. -/
def parentContext (outside : NodeRef) : List Frame → Context
  | [] => { usage := .other, type := none, node := outside }
  | frame :: path =>
    let node := frame.ref
    match frame with
    | .discarded _ _ => { usage := .statement, type := none, node }
    | .assigned _ targets before after =>
      if targets.length = before.length + 1 + after.length
      then decls.storedContext targets before.length node
      else { usage := .other, type := none, node }
    | .specValue _ names _ before _ => decls.storedContext names before.length node
    | .element _ _ _ _ | .key _ _ | .value _ _ | .sent _ _ =>
      { usage := .assignment, type := none, node }
    | .argument _ callee before _ spread =>
      { usage := .argument, type := decls.paramType? callee spread before.length, node }
    | .returned _ before after =>
      decls.returnContext path node before.length (before.length + 1 + after.length)
    | _ => { usage := .other, type := none, node }

/-- The context of the expression at a position. Parentheses, conversions and instantiations
around it do not count. -/
def classify (outside : NodeRef) (cursor : Cursor) : Context :=
  decls.parentContext outside (decls.transparent cursor).path

end Declarations

end Fluent
