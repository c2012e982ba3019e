import Fluent.Source.Comment
import Fluent.Syntax.Kind
import Fluent.Types.Basic

/-! Syntax trees with the types that a type checker has found.

The constructors are the forms that matter to a call chain or to the context of one.
All other forms share one constructor, which keeps their kind and their parts. What stands
inside of types is left out, such as a call in the length of an array, and so are the
parameters of functions and the types of type declarations. -/

set_option autoImplicit false

namespace Fluent

abbrev VarId := Nat

/-- What a node of any form has: where it stands and, for an expression, its type if known. -/
structure Head where
  start : Nat
  stop : Nat
  type : Option Ty

structure Ident where
  head : Head
  name : String
  use : Option FuncId
  receiverVar : Option VarId

inductive SelectionKind where
  | field
  /-- A method of a value, called or not. -/
  | methodValue
  /-- A method of a type, as a function that takes the receiver first. -/
  | methodExpr
  deriving DecidableEq

/-- What a type checker has found a selector to select. -/
structure Selection where
  kind : SelectionKind
  receiver : Ty
  method : Option FuncId

/-- Statements that evaluate a call and drop its value. -/
inductive Discard where
  | expression
  | go
  | deferred
  deriving DecidableEq

/-- The methods that one line of an interface declares, none for an embedded interface. -/
structure MethodSpec where
  names : List (Option FuncId)
  doc : CommentGroup

inductive Node where
  | ident (id : Ident)
  | typeExpr (head : Head)
  | paren (head : Head) (x : Node)
  /-- Without a selection, a name qualified by its package. -/
  | selector (head : Head) (x : Node) (sel : Ident) (selection : Option Selection)
  | index (head : Head) (x index : Node)
  | indexList (head : Head) (x : Node) (indices : List Node)
  | call (head : Head) (callee : Node) (args : List Node) (spread : Bool)
  | composite (head : Head) (type : Option Node) (elements : List Node)
  | unary (head : Head) (addressOf : Bool) (x : Node)
  | keyValue (head : Head) (key value : Node)
  | funcLit (head : Head) (body : Node)
  | discard (head : Head) (how : Discard) (x : Node)
  | send (head : Head) (channel value : Node)
  | assign (head : Head) (targets values : List Node)
  | ret (head : Head) (results : List Node)
  | valueSpec (head : Head) (names : List Node) (type : Option Node) (values : List Node)
  | typeSpec (head : Head) (methods : List MethodSpec)
  | genDecl (head : Head) (declaresTypes : Bool) (specs : List Node)
  /-- A function with the number it declares and the variable that names its receiver. -/
  | funcDecl (head : Head) (declares : Option FuncId) (doc : CommentGroup) (receiver : Option VarId)
      (body : Option Node)
  | other (head : Head) (kind : NodeKind) (parts : List Node)

/-- A node as far as reports are concerned. -/
structure NodeRef where
  kind : NodeKind
  start : Nat
  stop : Nat
  deriving DecidableEq

def Head.ref (head : Head) (kind : NodeKind) : NodeRef :=
  { kind, start := head.start, stop := head.stop }

def Discard.kind : Discard → NodeKind
  | .expression => .exprStmt
  | .go => .goStmt
  | .deferred => .deferStmt

namespace Node

def head : Node → Head
  | .ident id => id.head
  | .typeExpr head | .paren head _ | .selector head _ _ _ | .index head _ _ | .indexList head _ _
  | .call head _ _ _ | .composite head _ _ | .unary head _ _ | .keyValue head _ _ | .funcLit head _
  | .discard head _ _ | .send head _ _ | .assign head _ _ | .ret head _ | .valueSpec head _ _ _
  | .typeSpec head _ | .genDecl head _ _ | .funcDecl head _ _ _ _ | .other head _ _ => head

def kind : Node → NodeKind
  | .ident _ => .ident
  | .typeExpr _ => .typeExpr
  | .paren _ _ => .parenExpr
  | .selector _ _ _ _ => .selectorExpr
  | .index _ _ _ => .indexExpr
  | .indexList _ _ _ => .indexListExpr
  | .call _ _ _ _ => .callExpr
  | .composite _ _ _ => .compositeLit
  | .unary _ _ _ => .unaryExpr
  | .keyValue _ _ _ => .keyValueExpr
  | .funcLit _ _ => .funcLit
  | .discard _ how _ => how.kind
  | .send _ _ _ => .sendStmt
  | .assign _ _ _ => .assignStmt
  | .ret _ _ => .returnStmt
  | .valueSpec _ _ _ _ => .valueSpec
  | .typeSpec _ _ => .typeSpec
  | .genDecl _ _ _ => .genDecl
  | .funcDecl _ _ _ _ _ => .funcDecl
  | .other _ kind _ => kind

def ref (node : Node) : NodeRef :=
  node.head.ref node.kind

/-- The expression inside any number of parentheses. -/
def unparen : Node → Node
  | .paren _ x => x.unparen
  | node => node

def isType : Node → Bool
  | .typeExpr head => head.type.isSome
  | _ => false

def isBlank (node : Node) : Bool :=
  match node.unparen with
  | .ident id => id.name = "_"
  | _ => false

end Node

end Fluent
