import Fluent.Types.Basic

/-! Type sets: what an interface demands of the types that implement it.

An interface demands methods, and may admit only the types of some terms. Terms are
compared by a relation `overlaps` that says whether two of them have a type in common.
Of two terms that overlap, one contains the other: it is the approximate one, or the two
stand for the same types. -/

set_option autoImplicit false

namespace Fluent

structure TypeSet where
  methods : List Method
  /-- The terms whose types are admitted; missing if all types are. -/
  terms : Option (List (Term Ty))
  /-- Are only types admitted whose values can be compared? Holds only without terms: with
  terms, the admitted types have been chosen accordingly. -/
  comparable : Bool

namespace TypeSet

def all : TypeSet := { methods := [], terms := none, comparable := false }

/-- Does an interface demand nothing? -/
def isAll (set : TypeSet) : Bool :=
  set.methods.isEmpty && set.terms.isNone && !set.comparable

def single (type : Ty) : TypeSet :=
  { methods := [], terms := some [{ approximate := false, type }], comparable := false }

end TypeSet

namespace Terms

variable (overlaps : Term Ty → Term Ty → Bool)

/-- Add a term, unless a term that overlaps it contains it or can be replaced by it. -/
def insert (term : Term Ty) : List (Term Ty) → List (Term Ty)
  | [] => [term]
  | other :: terms =>
    if overlaps other term then
      (if other.approximate || !term.approximate then other else term) :: terms
    else other :: insert term terms

def join (terms others : List (Term Ty)) : List (Term Ty) :=
  others.foldl (fun terms term => insert overlaps term terms) terms

def union : Option (List (Term Ty)) → Option (List (Term Ty)) → Option (List (Term Ty))
  | some terms, some others => some (join overlaps terms others)
  | _, _ => none

/-- The types that two terms have in common, as a term. -/
def common? (term other : Term Ty) : Option (Term Ty) :=
  if overlaps term other then some (if !term.approximate || other.approximate then term else other)
  else none

def intersect : Option (List (Term Ty)) → Option (List (Term Ty)) → Option (List (Term Ty))
  | none, terms | terms, none => terms
  | some terms, some others =>
    some (join overlaps [] (terms.flatMap fun term => others.filterMap (common? overlaps term)))

/-- Does each term of a list lie in one of the others? -/
def contained (terms others : List (Term Ty)) : Bool :=
  terms.all fun term => others.any fun other =>
    overlaps term other && (!term.approximate || other.approximate)

/-- Do terms stand for the same types? -/
def equal : Option (List (Term Ty)) → Option (List (Term Ty)) → Bool
  | none, none => true
  | some terms, some others => contained overlaps terms others && contained overlaps others terms
  | _, _ => false

end Terms

end Fluent
