import Fluent.Text.Name
import Fluent.Types.Members

/-! The method set of a declared type: all methods that can be called on a pointer to
it, or on a value of it if it is an interface. -/

set_option autoImplicit false

namespace Fluent.Declarations

variable (decls : Declarations)

def ownMethods (embedding : Embedding) : List (String × Bool × Method) :=
  let methods := decls.declaredMethods embedding.type ++
    if decls.isInterface embedding.type then decls.interfaceMethods embedding.type else []
  methods.map fun method => (decls.functionKey method.func, embedding.multiple, method)

def fieldKeys (embedding : Embedding) : List String :=
  match decls.underlying embedding.type with
  | .struct package fields => fields.map fun field => decls.memberKey package field.name
  | _ => []

/-- What a key means at one depth: a method, or nothing if several methods or a field have it. -/
def methodAtDepth (methods : List (String × Bool × Method)) (fields : List String) (key : String) :
    Option Method :=
  if fields.contains key then none
  else
    match methods.filter fun (other, _, _) => other = key with
    | [(_, false, method)] => some method
    | _ => none

/-- Collect level by level what each key means. A key keeps its shallowest meaning. -/
def collectMembers : (fuel : Nat) → (seen : List Ty) → (level : List Embedding) →
    (meanings : List (String × Option Method)) → List (String × Option Method)
  | 0, _, _, meanings => meanings
  | fuel + 1, seen, level, meanings =>
    let level := decls.unseen seen level
    let methods := level.flatMap decls.ownMethods
    let fields := level.flatMap decls.fieldKeys
    let keys := (methods.map Prod.fst ++ fields).filter fun key =>
      !(meanings.any fun (taken, _) => taken = key)
    let meanings := meanings ++ keys.map fun key => (key, methodAtDepth methods fields key)
    match level.flatMap decls.embeddings with
    | [] => meanings
    | next => collectMembers fuel (seen ++ decls.namedAt level) (decls.consolidate next) meanings

/-- The methods of a declared type in the order of their keys. -/
def methodSet (id : NamedId) : List Method :=
  let type := Ty.plain id
  let meanings := decls.collectMembers (decls.depthBound) [] [{ type, multiple := false }] []
  sortByKey (fun method => decls.functionKey method.func) (meanings.filterMap Prod.snd)

end Fluent.Declarations
