import Fluent.Types.Identity

/-! Members of a type: its own fields and methods, and those promoted from embedded fields.

The shallowest member of a name counts. Two at the same depth hide each other. -/

set_option autoImplicit false

namespace Fluent

/-- A type at some depth of the search. `multiple` says that it is embedded in
several ways at that depth, so that none of its members can be told apart. -/
structure Embedding where
  type : Ty
  multiple : Bool

inductive Member where
  | field
  | method (method : Method)

namespace Declarations

variable (decls : Declarations)

/-- The types that a struct embeds, one level deeper. -/
def embeddings (embedding : Embedding) : List Embedding :=
  match decls.underlying embedding.type with
  | .struct _ fields =>
    (fields.filter Field.embedded).map fun field =>
      { type := decls.deref field.type, multiple := embedding.multiple }
  | _ => []

/-- Keep the first of identical types, and note that it stands for several. -/
def consolidate : List Embedding → List Embedding
  | [] => []
  | embedding :: rest =>
    let rest := consolidate rest
    let (others, repeated) := rest.partition fun other =>
      !decls.identical embedding.type other.type
    { embedding with multiple := embedding.multiple || !repeated.isEmpty } :: others

def isNamed (type : Ty) : Bool := (decls.shape type).isNamed

/-- The embeddings whose declared types have not come up at a shallower depth. -/
def unseen (seen : List Ty) (level : List Embedding) : List Embedding :=
  level.filter fun embedding =>
    !(decls.isNamed embedding.type && seen.any (decls.identical embedding.type))

def namedAt (level : List Embedding) : List Ty :=
  (level.map Embedding.type).filter decls.isNamed

/-- The member of a type itself that answers to `name` used in `package`. -/
def ownMember? (package : Option PackageId) (name : String) (type : Ty) : Option Member :=
  let answers (method : Method) : Bool :=
    decls.answersTo (decls.functionPackage method.func) (decls.functionNamed method.func) package name
  match (decls.declaredMethods type).find? answers with
  | some method => some (.method method)
  | none =>
    match decls.underlying type with
    | .struct fieldPackage fields =>
      (fields.find? fun field => decls.answersTo fieldPackage field.name package name).map
        fun _ => .field
    | .interface _ _ _ => ((decls.interfaceMethods type).find? answers).map .method
    | _ => none

def searchMember (package : Option PackageId) (name : String) :
    (fuel : Nat) → (seen : List Ty) → (level : List Embedding) → Option Member
  | 0, _, _ => none
  | fuel + 1, seen, level =>
    let level := decls.unseen seen level
    let found := level.filterMap fun embedding =>
      (decls.ownMember? package name embedding.type).map fun member => (embedding.multiple, member)
    match found with
    | [] =>
      match level.flatMap decls.embeddings with
      | [] => none
      | next => searchMember package name fuel (seen ++ decls.namedAt level) (decls.consolidate next)
    | [(false, member)] => some member
    | _ => none

/-- The field or method that answers to `name` used in `package` on a value of a type, or through
a pointer to one. A pointer to an interface has none. -/
def memberOf? (type : Ty) (viaPointer : Bool) (package : Option PackageId) (name : String) :
    Option Member :=
  if name = "_" || (viaPointer && decls.isInterface type) then none
  else decls.searchMember package name decls.depthBound [] [{ type, multiple := false }]

/-- The field or method of a type that answers to `name` used in `package`. -/
def member? (type : Ty) (package : Option PackageId) (name : String) : Option Member :=
  decls.memberOf? (decls.deref type) (decls.shape type).isPointer package name

/-- The method that answers to `name` used in `package`. A declared pointer type has no methods. -/
def method? (type : Ty) (package : Option PackageId) (name : String) : Option Method :=
  if decls.isNamed type && (decls.underlying type).isPointer then none
  else
    match decls.member? type package name with
    | some (.method method) => some method
    | _ => none

def containsPointer (type : Ty) (term : Term Ty) : Bool :=
  match decls.shape term.type with
  | .pointer elem => decls.identical elem type
  | _ => false

/-- Has a variable of a type a method as an interface demands it? -/
def hasMethod (type : Ty) (wanted : Method) : Bool :=
  match decls.memberOf? type true (decls.functionPackage wanted.func)
      (decls.functionNamed wanted.func) with
  | some (.method found) => decls.identicalMethods found wanted
  | _ => false

/-- Does the pointer to a declared type implement an interface? Nothing is held against a
type whose declaration is in error. -/
def pointerImplements (id : NamedId) (interface : Ty) : Bool :=
  let type := Ty.plain id
  let set := decls.typeSet interface
  (decls.underlying type).isInvalid || set.isAll ||
    (set.methods.all (decls.hasMethod type) &&
      match set.terms with
      | none => true
      | some terms => terms.any (decls.containsPointer type))

end Declarations

end Fluent
