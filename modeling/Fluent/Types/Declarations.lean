import Fluent.QualifiedName
import Fluent.Text.CharClass
import Fluent.Types.Basic

/-! The table of types and the functions that types refer to. The entries of the table form a graph, in which
what can be reached from an entry is found by spreading. -/

set_option autoImplicit false

namespace Fluent

namespace Graph

variable {α : Type} [DecidableEq α]

/-- The nodes that are not known, each at its first place. -/
def fresh (known : List α) : List α → List α
  | [] => []
  | node :: nodes =>
    if node ∈ known then fresh known nodes else node :: fresh (node :: known) nodes

/-- Add the successors of the frontier to the known nodes, a number of times. -/
def spread (next : α → List α) : (rounds : Nat) → (known frontier : List α) → List α
  | 0, known, _ => known
  | rounds + 1, known, frontier =>
    let found := fresh known (frontier.flatMap next)
    spread next rounds (known ++ found) found

/-- The nodes within a number of steps from the seeds, the nearer ones first. -/
def reachable (next : α → List α) (rounds : Nat) (seeds : List α) : List α :=
  spread next rounds (fresh [] seeds) (fresh [] seeds)

end Graph

structure NamedDecl where
  name : String
  /-- Missing for the types that every package sees without an import. -/
  package : Option PackageId
  /-- What the declaration stands for; never a declared type itself. -/
  underlying : TypeId
  /-- The methods declared on the type. Those of an interface are part of its underlying type. -/
  methods : List FuncId
  typeParams : List TypeId

inductive TypeEntry where
  | literal (shape : Shape TypeId)
  | declared (decl : NamedDecl)
  | instantiated (origin : NamedId) (args : List TypeId)
  | param (constraint : TypeId)
  /-- A second name of a type. -/
  | alias (elem : TypeId)

structure Function where
  name : String
  package : Option PackageId
  /-- The entry of its type, in which the receiver does not show. -/
  type : TypeId
  receiver : Option TypeId
  typeParams : List TypeId
  /-- The receiver's own type parameters, in which the type of a generic type's method is written. -/
  receiverParams : List TypeId

structure Declarations where
  packagePaths : List String
  types : Array TypeEntry
  functions : List Function

/-- Is a declared name visible in other packages? -/
def isExported (name : String) : Bool :=
  match name.toList with
  | c :: _ => Text.isUppercase c
  | [] => false

/-- The form of a type whose text is in error. -/
def Shape.invalid {τ : Type} : Shape τ := .basic "invalid type"

def Shape.isInvalid {τ : Type} : Shape τ → Bool
  | .basic name => name = "invalid type"
  | _ => false

def Shape.isPointer {τ : Type} : Shape τ → Bool
  | .pointer _ => true
  | _ => false

def Shape.isInterface {τ : Type} : Shape τ → Bool
  | .interface _ _ _ => true
  | _ => false

def Shape.isNamed {τ : Type} : Shape τ → Bool
  | .named _ _ => true
  | _ => false

namespace Declarations

variable (decls : Declarations)

def packagePath (package : PackageId) : String :=
  decls.packagePaths[package]?.getD ""

def functionNamed (func : FuncId) : String :=
  match decls.functions[func]? with
  | some function => function.name
  | none => ""

def functionPackage (func : FuncId) : Option PackageId :=
  decls.functions[func]?.bind Function.package

def named? (id : NamedId) : Option NamedDecl :=
  match decls.types[id]? with
  | some (.declared decl) => some decl
  | _ => none

def packageOf (id : NamedId) : Option PackageId :=
  (decls.named? id).bind NamedDecl.package

/-- Packages count as the same when their paths agree. -/
def samePackage : Option PackageId → Option PackageId → Bool
  | none, none => true
  | some a, some b => decls.packagePath a = decls.packagePath b
  | _, _ => false

/-- What tells apart two members of one type: the name, and for an unexported name its package. -/
def memberKey (package : Option PackageId) (name : String) : String :=
  if isExported name then name
  else
    let path := (package.map decls.packagePath).getD ""
    (if path = "" then "_" else path) ++ "." ++ name

def functionKey (func : FuncId) : String :=
  decls.memberKey (decls.functionPackage func) (decls.functionNamed func)

/-- Does a member with a package and name of its own answer to `name` used in `package`? -/
def answersTo (memberPackage : Option PackageId) (memberName : String)
    (package : Option PackageId) (name : String) : Bool :=
  memberName = name && (isExported memberName || decls.samePackage memberPackage package)

/-- More steps than a way through the types takes that meets no entry twice. -/
def depthBound : Nat := decls.types.size + 1

/-- More steps than a search takes that visits each pair of types once. -/
def pairBound : Nat := decls.depthBound * decls.depthBound * decls.depthBound

/-- The entries that an entry mentions; those behind a declared type do not count, since a
declared type has arguments of its own. -/
def mentions (entry : TypeId) : List TypeId :=
  match decls.types[entry]? with
  | some (.literal (.interface _ methods embeds)) =>
    embeds ++ methods.filterMap fun func => decls.functions[func]?.map Function.type
  | some (.literal shape) => shape.parts
  | some (.declared _) => []
  | some (.instantiated _ args) => args
  | some (.param next) | some (.alias next) => [next]
  | none => []

/-- Keep the arguments of the type parameters that the entry mentions, directly or not. -/
def restrict (type : Ty) : Ty :=
  match type.args with
  | [] => type
  | args =>
    let reached := Graph.reachable decls.mentions decls.depthBound [type.entry]
    { type with args := args.filter fun (param, _) => reached.contains param }

/-- Follow a number of aliases, and put in the argument of a type parameter. -/
def resolveWithin : (fuel : Nat) → Ty → Ty
  | 0, type => type
  | fuel + 1, type =>
    match decls.types[type.entry]? with
    | some (.alias elem) => resolveWithin fuel { type with entry := elem }
    | some (.param _) => (type.args.lookup type.entry).getD (decls.restrict type)
    | _ => decls.restrict type

/-- The type that an alias or a type parameter with an argument stands for, without arguments
that it does not need. -/
def resolve (type : Ty) : Ty :=
  decls.resolveWithin decls.depthBound type

/-- The form of a type behind its aliases. -/
def shape (type : Ty) : Shape Ty :=
  let type := decls.resolve type
  let part (entry : TypeId) : Ty := { type with entry }
  match decls.types[type.entry]? with
  | some (.literal shape) => shape.onParts part
  | some (.declared _) => .named type.entry []
  | some (.instantiated origin args) => .named origin (args.map fun arg => decls.resolve (part arg))
  | some (.param _) => .typeParam type.entry
  | some (.alias _) | none => .invalid

/-- The type that a declared type stands for. -/
def expand (type : Ty) : Ty :=
  match decls.shape type with
  | .named id args =>
    match decls.named? id with
    | some decl => decls.resolve { entry := decl.underlying, args := decl.typeParams.zip args }
    | none => type
  | _ => decls.resolve type

def constraintOf (type : Ty) : Ty :=
  match decls.types[type.entry]? with
  | some (.param constraint) => { type with entry := constraint }
  | _ => type

/-- The written out type behind aliases and declarations. That of a type parameter is the
interface it has to satisfy. -/
def core (type : Ty) : Ty :=
  match decls.shape type with
  | .typeParam _ => decls.expand (decls.constraintOf (decls.resolve type))
  | _ => decls.expand type

/-- The form of a type behind aliases and declarations. -/
def underlying (type : Ty) : Shape Ty :=
  let shape := decls.shape (decls.core type)
  match decls.shape type with
  | .typeParam _ => if shape.isInterface then shape else .interface false [] []
  | _ => shape

def isInterface (type : Ty) : Bool := (decls.underlying type).isInterface

/-- The base of a pointer type, or the type itself. -/
def deref (type : Ty) : Ty :=
  match decls.shape type with
  | .pointer elem => elem
  | _ => type

/-- The declared type that a type is or points to, without its type arguments. -/
def base? (type : Ty) : Option NamedId :=
  match decls.shape (decls.deref type) with
  | .named id _ => some id
  | _ => none

/-- Do two types denote the same declared type, up to pointers and type arguments? -/
def sameBase (first second : Ty) : Bool :=
  match decls.base? first, decls.base? second with
  | some a, some b => a = b
  | _, _ => false

def signature? (type : Ty) : Option (Signature Ty) :=
  match decls.types[type.entry]? with
  | some (.literal (.func signature)) =>
    some (signature.onParts fun entry => { type with entry })
  | _ => none

/-- The signature of a function with the arguments of its receiver filled in. -/
def signatureOf? (method : Method) : Option (Signature Ty) :=
  decls.functions[method.func]?.bind fun function =>
    decls.signature? { entry := function.type, args := method.args }

def resultsOf (method : Method) : List Ty :=
  ((decls.signatureOf? method).map Signature.results).getD []

/-- The result that a chain goes on with after a function. -/
def resultOf? (method : Method) : Option Ty :=
  (decls.resultsOf method).head?

/-- The declared type that a method belongs to. -/
def receiverBase? (func : FuncId) : Option NamedId :=
  (decls.functions[func]?.bind Function.receiver).bind fun entry => decls.base? (.plain entry)

/-- A method declared on a type, with the receiver's type parameters replaced by `args`. -/
def methodAt (args : List Ty) (func : FuncId) : Option Method :=
  decls.functions[func]?.map fun function =>
    { func
      args :=
        if function.receiverParams.length = args.length then function.receiverParams.zip args
        else [] }

def declaredMethods (type : Ty) : List Method :=
  match decls.shape type with
  | .named id args =>
    match decls.named? id with
    | some decl => decl.methods.filterMap (decls.methodAt args)
    | none => []
  | _ => []

/-- The name by which a rule addresses a function. A method goes by its receiver's declared type. -/
def qualifiedName (func : FuncId) : QualifiedName :=
  match decls.functions[func]? with
  | none => { path := "", receiver := none, name := "" }
  | some function =>
    { path := (function.package.map decls.packagePath).getD ""
      receiver :=
        (decls.receiverBase? func).bind fun id => (decls.named? id).map NamedDecl.name
      name := function.name }

end Declarations

end Fluent
