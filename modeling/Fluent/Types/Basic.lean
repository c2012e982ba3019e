/-! Types of expressions, as a type checker has found them.

Types stand in a table whose entries refer to each other by number, so recursive types and
types with many equal parts need no more room than their text. A type is an entry of the
table together with the arguments of the type parameters that the entry mentions. -/

set_option autoImplicit false

namespace Fluent

abbrev PackageId := Nat
abbrev FuncId := Nat

/-- The number of an entry of the type table. -/
abbrev TypeId := Nat

/-- The number of the entry of a declared type. -/
abbrev NamedId := TypeId

structure Signature (τ : Type) where
  params : List τ
  results : List τ
  /-- The last parameter is a slice that takes any number of arguments. -/
  variadic : Bool

structure Field (τ : Type) where
  name : String
  embedded : Bool
  /-- Fields with different tags make different types. -/
  tag : String
  type : τ

structure Term (τ : Type) where
  /-- The term stands for all types with the underlying type `type`, not for `type` alone. -/
  approximate : Bool
  type : τ

inductive Direction where
  | both
  | send
  | receive
  deriving DecidableEq

/-- The outermost form of a type, with `τ` for its parts. -/
inductive Shape (τ : Type) where
  | basic (name : String)
  | pointer (elem : τ)
  | slice (elem : τ)
  | array (length : Int) (elem : τ)
  | map (key elem : τ)
  | chan (direction : Direction) (elem : τ)
  /-- Names of unexported fields belong to the package that wrote the type. -/
  | struct (package : Option PackageId) (fields : List (Field τ))
  | tuple (elems : List τ)
  | func (signature : Signature τ)
  /-- The methods written in the interface, and the types whose requirements it takes over. Only a
  predeclared interface demands by itself that values can be compared. -/
  | interface (comparable : Bool) (methods : List FuncId) (embeds : List τ)
  | union (terms : List (Term τ))
  /-- A declared type; the arguments are empty for a type that is not generic and for
  the generic type itself. -/
  | named (id : NamedId) (args : List τ)
  | typeParam (id : TypeId)

def Signature.onParts {τ υ : Type} (f : τ → υ) (signature : Signature τ) : Signature υ :=
  { params := signature.params.map f
    results := signature.results.map f
    variadic := signature.variadic }

/-- The result that a chain goes on with. -/
def Signature.result? {τ : Type} (signature : Signature τ) : Option τ :=
  signature.results.head?

def Shape.onParts {τ υ : Type} (f : τ → υ) : Shape τ → Shape υ
  | .basic name => .basic name
  | .pointer elem => .pointer (f elem)
  | .slice elem => .slice (f elem)
  | .array length elem => .array length (f elem)
  | .map key elem => .map (f key) (f elem)
  | .chan direction elem => .chan direction (f elem)
  | .struct package fields =>
    .struct package (fields.map fun field => { field with type := f field.type })
  | .tuple elems => .tuple (elems.map f)
  | .func signature => .func (signature.onParts f)
  | .interface comparable methods embeds => .interface comparable methods (embeds.map f)
  | .union terms => .union (terms.map fun term => { term with type := f term.type })
  | .named id args => .named id (args.map f)
  | .typeParam id => .typeParam id

def Shape.parts {τ : Type} : Shape τ → List τ
  | .basic _ | .typeParam _ => []
  | .pointer elem | .slice elem | .array _ elem | .chan _ elem => [elem]
  | .map key elem => [key, elem]
  | .struct _ fields => fields.map Field.type
  | .func signature => signature.params ++ signature.results
  | .union terms => terms.map Term.type
  | .tuple parts | .interface _ _ parts | .named _ parts => parts

/-- A type: an entry of the table, and the arguments of type parameters that it mentions. A
parameter without an argument stands for itself, and the first argument counts. -/
structure Ty where
  entry : TypeId
  args : List (TypeId × Ty)

/-- Arguments by type parameter. -/
abbrev Substitution := List (TypeId × Ty)

/-- A function at an instantiation. -/
structure Method where
  func : FuncId
  /-- The arguments of the receiver's type parameters. -/
  args : Substitution

/-- The type that an entry gives by itself. -/
def Ty.plain (entry : TypeId) : Ty := { entry, args := [] }

/-- A function as it is declared. -/
def Method.plain (func : FuncId) : Method := { func, args := [] }

mutual

/-- Are two types given by the same entry and arguments? -/
def Ty.same : Ty → Ty → Bool
  | ⟨first, args⟩, ⟨second, others⟩ => first = second && Ty.sameArgs args others

def Ty.sameArgs : Substitution → Substitution → Bool
  | [], [] => true
  | (first, type) :: args, (second, other) :: others =>
    first = second && type.same other && Ty.sameArgs args others
  | _, _ => false

end

end Fluent
