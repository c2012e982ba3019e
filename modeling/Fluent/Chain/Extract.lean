import Fluent.Chain.Spine

/-! Extraction of the call chains of a file. -/

set_option autoImplicit false

namespace Fluent

/-- A file with the markers and declarations that its names refer to. -/
structure Scene where
  markers : Markers
  file : SourceFile

namespace Scene

variable (scene : Scene)

def decls : Declarations := scene.markers.decls

def message? (func : Option FuncId) : Option Text.Bytes :=
  func.bind scene.markers.entryPoint?

/-- The root that an operand at the end of a descent makes; `receiver` is the receiver variable of
the enclosing method. -/
def operandRoot (receiver : Option VarId) (node : Node) : Root :=
  let plain (kind : RootKind) : Root :=
    { kind, expr := node.ref, type := scene.decls.typeOf node, func := none, message := [] }
  match node with
  | .call _ callee _ _ =>
    if callee.isType then plain .operand
    else
      let func := callee.calledFunction?
      match scene.message? func with
      | some message => { plain .entryPoint with func, message }
      | none => { plain .call with func }
  | .composite _ _ _ => plain .composite
  | .unary _ addressOf x =>
    match x.unparen with
    | .composite _ _ _ => if addressOf then plain .composite else plain .operand
    | _ => plain .operand
  | .ident id =>
    if receiver.isSome ∧ id.receiverVar = receiver then plain .self else plain .operand
  | _ => plain .operand

def root (receiver : Option VarId) : SpineEnd → Root
  | .operand node => scene.operandRoot receiver node
  | .methodExpr node type method =>
    { kind := .reference, expr := node.ref, type := some type, func := method, message := [] }

/-- Is a chain exempt from checks? A chain is if it starts at an ignored function or lies in one,
or if a comment accepts findings behind its root, its end or the statement around it. -/
def isSuppressed (cursor : Cursor) (root : Root) : Bool :=
  (root.func.any scene.markers.ignores) || scene.file.nolintAt root.expr.start ||
    scene.file.nolintAt cursor.node.head.stop ||
    cursor.enclosingFunctions.any scene.markers.ignores ||
    cursor.statementStart?.any scene.file.nolintAt

/-- Complete a chain whose outermost expression is at `cursor`. A reference is consumed as a
function, of the type that the context expects or else of its own. -/
def finish (cursor : Cursor) (root : Root) (steps : List Step) (reference : Bool) : Chain :=
  let context := scene.decls.classify scene.file.ref cursor
  { root
    steps
    outer := cursor.node.ref
    context :=
      if reference then
        { usage := .reference
          type := context.type.orElse fun _ => scene.decls.typeOf cursor.node
          node := context.node }
      else context
    suppressed := scene.isSuppressed cursor root }

/-- Does a root with its first step make a chain? The mere use of a builder does not. -/
def isChain (root : Root) (steps : List Step) : Inquiry Bool :=
  match root.kind, steps with
  | .self, [] | .operand, [] | .composite, [] => return false
  | .self, first :: _ | .operand, first :: _ => Inquiry.isBuilder scene.decls first.result
  | _, _ => return true

def chainAt (cursor : Cursor) (reference : Bool) : Inquiry (Option Chain) := do
  let spine ← cursor.node.spine scene.decls
  let root := scene.root cursor.receiver? spine.base
  if ← scene.isChain root spine.steps then return some (scene.finish cursor root spine.steps reference)
  else return none

/-- Is the value at a position, of the given type, the receiver of a further step? -/
def continues (cursor : Cursor) (type : Option Ty) : Inquiry Bool :=
  match cursor.outOfParens.path with
  | .selectorBase _ _ (some selection) :: _ =>
    if selection.kind = .methodExpr then return false else Inquiry.isBuilder scene.decls type
  | _ => return false

/-- Does a call yield a builder, or call a method of one? -/
def isElement (callee : Node) (type : Option Ty) : Inquiry Bool := do
  if callee.isType then return false
  match callee.unparen with
  | .selector _ _ _ (some selection) =>
    if selection.kind = .methodValue then
      if ← Inquiry.isBuilder scene.decls (some selection.receiver) then return true
    Inquiry.isBuilder scene.decls type
  | _ => Inquiry.isBuilder scene.decls type

/-- The chain of an entry point that is not called. -/
def entryReference (cursor : Cursor) (use : Option FuncId) : Inquiry (Option Chain) := do
  match use, scene.message? use with
  | some func, some message =>
    if scene.decls.isCalled cursor then return none
    let outer := scene.decls.instantiated cursor
    let type := scene.decls.resultOf? (.plain func)
    if ← Inquiry.isBuilder scene.decls type then
      let root : Root := { kind := .reference, expr := outer.node.ref, type, func := use, message }
      return some (scene.finish outer root [] true)
    else return none
  | _, _ => return none

/-- The chain that a position is the outermost expression of. -/
def chain? (cursor : Cursor) : Inquiry (Option Chain) := do
  match cursor.node with
  | .call head callee _ _ =>
    if ← scene.isElement callee head.type then
      if ← scene.continues cursor head.type then return none
      else scene.chainAt cursor false
    else return none
  | .ident id => scene.entryReference cursor id.use
  | .selector _ _ sel none => scene.entryReference cursor sel.use
  | .selector head _ _ (some selection) =>
    if ← Inquiry.isBuilder scene.decls (some selection.receiver) then
      match selection.kind with
      | .field =>
        if ← scene.continues cursor head.type then return none
        else scene.chainAt cursor false
      | _ =>
        if scene.decls.isCalled cursor then return none
        else scene.chainAt cursor true
    else return none
  | _ => return none

def chainsAt : List Cursor → Inquiry (List Chain)
  | [] => return []
  | cursor :: cursors => do
    let chain ← scene.chain? cursor
    let rest ← chainsAt cursors
    return chain.toList ++ rest

def chains : Inquiry (List Chain) :=
  scene.chainsAt scene.file.cursors

end Scene

end Fluent
