import Fluent.Types.Declarations
import Fluent.Types.TypeSet

/-! The type sets of interfaces.

The set of an interface is built from the sets of the interfaces that it embeds, each of
which is found once and kept. Which types are identical is left open here, since that in
turn depends on type sets. -/

set_option autoImplicit false

namespace Fluent

/-- Type sets by the written out types behind interfaces; the latest one counts. -/
abbrev KnownSets := List (Ty × TypeSet)

namespace Declarations

variable (decls : Declarations)

/-- The methods whose keys come up for the first time. -/
def distinctMethods (taken : List String) : List Method → List Method
  | [] => []
  | method :: methods =>
    let key := decls.functionKey method.func
    if taken.contains key then distinctMethods taken methods
    else method :: distinctMethods (key :: taken) methods

/-- The types whose values have to be comparable for those of a type to be so, or none if they
are not. `sets` gives the type sets of interfaces. -/
def comparableParts? (sets : Ty → TypeSet) (type : Ty) : Option (List Ty) :=
  match decls.underlying type with
  | .basic name => if name = "untyped nil" then none else some []
  | .pointer _ | .chan _ _ => some []
  | .struct _ fields => some (fields.map Field.type)
  | .array _ elem => some [elem]
  | .interface _ _ _ =>
    match (sets type).terms with
    | none => if (sets type).comparable then some [] else none
    | some [] => none
    | some terms => some (terms.map Term.type)
  | _ => none

/-- The types that have not come up, each at its first place. -/
def freshTypes (known : List Ty) : List Ty → List Ty
  | [] => []
  | type :: types =>
    let type := decls.resolve type
    if known.any type.same then freshTypes known types else type :: freshTypes (type :: known) types

/-- Can values of all pending types be compared? `known` are the types that have come up. -/
def allComparable (sets : Ty → TypeSet) : (fuel : Nat) → (known pending : List Ty) → Bool
  | 0, _, _ => true
  | _ + 1, _, [] => true
  | fuel + 1, known, type :: pending =>
    match decls.comparableParts? sets type with
    | none => false
    | some parts =>
      let fresh := decls.freshTypes known parts
      allComparable sets fuel (known ++ fresh) (fresh ++ pending)

def isComparable (sets : Ty → TypeSet) (type : Ty) : Bool :=
  let type := decls.resolve type
  decls.allComparable sets decls.pairBound [type] [type]

def overlaps (identical : Ty → Ty → Bool) (first second : Term Ty) : Bool :=
  identical (if second.approximate then decls.core first.type else first.type)
    (if first.approximate then decls.core second.type else second.type)

/-- The types that meet the demands of two sets. -/
def meet (identical : Ty → Ty → Bool) (sets : Ty → TypeSet) (first second : TypeSet) : TypeSet :=
  let methods := decls.distinctMethods [] (first.methods ++ second.methods)
  let comparable := first.comparable || second.comparable
  match Terms.intersect (decls.overlaps identical) first.terms second.terms with
  | none => { methods, terms := none, comparable }
  | some terms =>
    let admitted := terms.filter fun term => !comparable || decls.isComparable sets term.type
    { methods, terms := some admitted, comparable := false }

/-- What a single term of a union comes to. A term in error is left out, and so is an approximate
term that no type can have as its underlying type. -/
def termsOf (identical : Ty → Ty → Bool) (sets : Ty → TypeSet) (term : Term Ty) :
    Option (List (Term Ty)) :=
  let shape := decls.underlying term.type
  if shape.isInterface then (sets term.type).terms
  else if shape.isInvalid then some []
  else if term.approximate && !identical term.type (decls.core term.type) then some []
  else some [term]

def maxTerms : Nat := 100

/-- Add what the terms of a union come to. A union of too many terms admits all types. -/
def unionTerms (identical : Ty → Ty → Bool) (sets : Ty → TypeSet) :
    (found : Option (List (Term Ty))) → List (Term Ty) → Option (List (Term Ty))
  | found, [] => found
  | found, term :: terms =>
    match Terms.union (decls.overlaps identical) found (decls.termsOf identical sets term) with
    | none => none
    | some found =>
      if found.length ≤ maxTerms then unionTerms identical sets (some found) terms else none

/-- The type set that an embedded type contributes to an interface. -/
def elementSet (identical : Ty → Ty → Bool) (sets : Ty → TypeSet) (embed : Ty) : TypeSet :=
  match decls.underlying embed with
  | .interface _ _ _ => sets embed
  | .union terms => { TypeSet.all with terms := decls.unionTerms identical sets (some []) terms }
  | shape => if shape.isInvalid then .all else .single embed

/-- The types that an embedded type names: itself, or the terms of a union. -/
def elements (embed : Ty) : List Ty :=
  match decls.underlying embed with
  | .union terms => terms.map Term.type
  | _ => [embed]

def knownSet? (known : KnownSets) (type : Ty) : Option TypeSet :=
  (known.find? fun (other, _) => other.same (decls.core type)).map Prod.snd

/-- Find the type sets of an interface and of those that it embeds. An interface that embeds
itself demands nothing while its set is being found. -/
def learn (identical : KnownSets → Ty → Ty → Bool) : (fuel : Nat) → KnownSets → Ty → KnownSets
  | 0, known, _ => known
  | fuel + 1, known, type =>
    let core := decls.core type
    match decls.knownSet? known type, decls.shape core with
    | none, .interface comparable methods embeds =>
      let known := (embeds.flatMap decls.elements).foldl (learn identical fuel)
        ((core, .all) :: known)
      let sets (other : Ty) : TypeSet :=
        (decls.knownSet? (learn identical fuel known other) other).getD .all
      let own := methods.map fun func => { func, args := core.args }
      let set := embeds.foldl (fun set embed =>
        decls.meet (identical known) sets set (decls.elementSet (identical known) sets embed))
        { methods := decls.distinctMethods [] own, terms := none, comparable }
      (core, set) :: known
    | _, _ => known

def typeSetWith (identical : KnownSets → Ty → Ty → Bool) (known : KnownSets) (type : Ty) :
    TypeSet :=
  (decls.knownSet? (decls.learn identical decls.depthBound known type) type).getD .all

end Declarations

end Fluent
