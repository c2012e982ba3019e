import Fluent.Syntax.Node

/-! Positions in a syntax tree.

A cursor is a node together with its surroundings, given as frames from the parent
outwards. A frame is a parent with a hole in place of one child. -/

set_option autoImplicit false

namespace Fluent

inductive Frame where
  | paren (head : Head)
  | selectorBase (head : Head) (sel : Ident) (selection : Option Selection)
  | indexBase (head : Head) (index : Node)
  | indexArgument (head : Head) (x : Node)
  | indexListBase (head : Head) (indices : List Node)
  | indexListArgument (head : Head) (x : Node) (before after : List Node)
  | callee (head : Head) (args : List Node) (spread : Bool)
  | argument (head : Head) (callee : Node) (before after : List Node) (spread : Bool)
  | compositeType (head : Head) (elements : List Node)
  | element (head : Head) (type : Option Node) (before after : List Node)
  | operand (head : Head) (addressOf : Bool)
  | key (head : Head) (value : Node)
  | value (head : Head) (key : Node)
  | closureBody (head : Head)
  | discarded (head : Head) (how : Discard)
  | channel (head : Head) (value : Node)
  | sent (head : Head) (channel : Node)
  | target (head : Head) (before after values : List Node)
  | assigned (head : Head) (targets before after : List Node)
  | returned (head : Head) (before after : List Node)
  | specName (head : Head) (before after : List Node) (type : Option Node) (values : List Node)
  | specType (head : Head) (names values : List Node)
  | specValue (head : Head) (names : List Node) (type : Option Node) (before after : List Node)
  | spec (head : Head) (declaresTypes : Bool) (before after : List Node)
  | body (head : Head) (declares : Option FuncId) (doc : CommentGroup) (receiver : Option VarId)
  | part (head : Head) (kind : NodeKind) (before after : List Node)

namespace Frame

def plug : Frame → Node → Node
  | .paren head, x => .paren head x
  | .selectorBase head sel selection, x => .selector head x sel selection
  | .indexBase head i, x => .index head x i
  | .indexArgument head base, x => .index head base x
  | .indexListBase head indices, x => .indexList head x indices
  | .indexListArgument head base before after, x => .indexList head base (before ++ x :: after)
  | .callee head args spread, x => .call head x args spread
  | .argument head f before after spread, x => .call head f (before ++ x :: after) spread
  | .compositeType head elements, x => .composite head (some x) elements
  | .element head type before after, x => .composite head type (before ++ x :: after)
  | .operand head addressOf, x => .unary head addressOf x
  | .key head v, x => .keyValue head x v
  | .value head k, x => .keyValue head k x
  | .closureBody head, x => .funcLit head x
  | .discarded head how, x => .discard head how x
  | .channel head v, x => .send head x v
  | .sent head c, x => .send head c x
  | .target head before after values, x => .assign head (before ++ x :: after) values
  | .assigned head targets before after, x => .assign head targets (before ++ x :: after)
  | .returned head before after, x => .ret head (before ++ x :: after)
  | .specName head before after type values, x => .valueSpec head (before ++ x :: after) type values
  | .specType head names values, x => .valueSpec head names (some x) values
  | .specValue head names type before after, x => .valueSpec head names type (before ++ x :: after)
  | .spec head declaresTypes before after, x => .genDecl head declaresTypes (before ++ x :: after)
  | .body head declares doc receiver, x => .funcDecl head declares doc receiver (some x)
  | .part head kind before after, x => .other head kind (before ++ x :: after)

def head : Frame → Head
  | .paren head | .selectorBase head _ _ | .indexBase head _ | .indexArgument head _
  | .indexListBase head _ | .indexListArgument head _ _ _ | .callee head _ _ | .argument head _ _ _ _
  | .compositeType head _ | .element head _ _ _ | .operand head _ | .key head _ | .value head _
  | .closureBody head | .discarded head _ | .channel head _ | .sent head _ | .target head _ _ _
  | .assigned head _ _ _ | .returned head _ _ | .specName head _ _ _ _ | .specType head _ _
  | .specValue head _ _ _ _ | .spec head _ _ _ | .body head _ _ _ | .part head _ _ _ => head

def kind : Frame → NodeKind
  | .paren _ => .parenExpr
  | .selectorBase _ _ _ => .selectorExpr
  | .indexBase _ _ | .indexArgument _ _ => .indexExpr
  | .indexListBase _ _ | .indexListArgument _ _ _ _ => .indexListExpr
  | .callee _ _ _ | .argument _ _ _ _ _ => .callExpr
  | .compositeType _ _ | .element _ _ _ _ => .compositeLit
  | .operand _ _ => .unaryExpr
  | .key _ _ | .value _ _ => .keyValueExpr
  | .closureBody _ => .funcLit
  | .discarded _ how => how.kind
  | .channel _ _ | .sent _ _ => .sendStmt
  | .target _ _ _ _ | .assigned _ _ _ _ => .assignStmt
  | .returned _ _ _ => .returnStmt
  | .specName _ _ _ _ _ | .specType _ _ _ | .specValue _ _ _ _ _ => .valueSpec
  | .spec _ _ _ _ => .genDecl
  | .body _ _ _ _ => .funcDecl
  | .part _ kind _ _ => kind

/-- The parent that the frame is, as far as reports are concerned. -/
def ref (frame : Frame) : NodeRef :=
  frame.head.ref frame.kind

theorem head_plug (frame : Frame) (node : Node) : (frame.plug node).head = frame.head := by
  cases frame <;> rfl

theorem kind_plug (frame : Frame) (node : Node) : (frame.plug node).kind = frame.kind := by
  cases frame <;> rfl

end Frame

structure Cursor where
  node : Node
  /-- The frames around the node, its parent first. -/
  path : List Frame

namespace Node

mutual

/-- All positions in a tree that a walk from the outside in and from left to right visits.
The body of a function whose doc comment accepts findings is not entered. -/
def cursors (path : List Frame) : Node → List Cursor
  | .ident id => [⟨.ident id, path⟩]
  | .typeExpr head => [⟨.typeExpr head, path⟩]
  | .paren head x => ⟨.paren head x, path⟩ :: x.cursors (.paren head :: path)
  | .selector head x sel selection =>
    ⟨.selector head x sel selection, path⟩ :: x.cursors (.selectorBase head sel selection :: path)
  | .index head x i =>
    ⟨.index head x i, path⟩ ::
      (x.cursors (.indexBase head i :: path) ++ i.cursors (.indexArgument head x :: path))
  | .indexList head x indices =>
    ⟨.indexList head x indices, path⟩ ::
      (x.cursors (.indexListBase head indices :: path) ++
        cursorsOfList path (.indexListArgument head x) [] indices)
  | .call head callee args spread =>
    ⟨.call head callee args spread, path⟩ ::
      (callee.cursors (.callee head args spread :: path) ++
        cursorsOfList path (fun before after => .argument head callee before after spread) [] args)
  | .composite head type elements =>
    ⟨.composite head type elements, path⟩ ::
      (cursorsOfOption path (.compositeType head elements) type ++
        cursorsOfList path (.element head type) [] elements)
  | .unary head addressOf x =>
    ⟨.unary head addressOf x, path⟩ :: x.cursors (.operand head addressOf :: path)
  | .keyValue head key value =>
    ⟨.keyValue head key value, path⟩ ::
      (key.cursors (.key head value :: path) ++ value.cursors (.value head key :: path))
  | .funcLit head body => ⟨.funcLit head body, path⟩ :: body.cursors (.closureBody head :: path)
  | .discard head how x => ⟨.discard head how x, path⟩ :: x.cursors (.discarded head how :: path)
  | .send head channel value =>
    ⟨.send head channel value, path⟩ ::
      (channel.cursors (.channel head value :: path) ++ value.cursors (.sent head channel :: path))
  | .assign head targets values =>
    ⟨.assign head targets values, path⟩ ::
      (cursorsOfList path (fun before after => .target head before after values) [] targets ++
        cursorsOfList path (.assigned head targets) [] values)
  | .ret head results =>
    ⟨.ret head results, path⟩ :: cursorsOfList path (.returned head) [] results
  | .valueSpec head names type values =>
    ⟨.valueSpec head names type values, path⟩ ::
      (cursorsOfList path (fun before after => .specName head before after type values) [] names ++
        (cursorsOfOption path (.specType head names values) type ++
          cursorsOfList path (.specValue head names type) [] values))
  | .typeSpec head methods => [⟨.typeSpec head methods, path⟩]
  | .genDecl head declaresTypes specs =>
    ⟨.genDecl head declaresTypes specs, path⟩ :: cursorsOfList path (.spec head declaresTypes) [] specs
  | .funcDecl head declares doc receiver body =>
    ⟨.funcDecl head declares doc receiver body, path⟩ ::
      if docHasNolint doc then []
      else cursorsOfOption path (.body head declares doc receiver) body
  | .other head kind parts =>
    ⟨.other head kind parts, path⟩ :: cursorsOfList path (.part head kind) [] parts

/-- The positions below the children in a list; `frame` surrounds a child given those before and
after it. -/
def cursorsOfList (path : List Frame) (frame : List Node → List Node → Frame)
    (before : List Node) : List Node → List Cursor
  | [] => []
  | node :: after =>
    node.cursors (frame before after :: path) ++
      cursorsOfList path frame (before ++ [node]) after

def cursorsOfOption (path : List Frame) (frame : Frame) : Option Node → List Cursor
  | none => []
  | some node => node.cursors (frame :: path)

end

end Node

end Fluent
