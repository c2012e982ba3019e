import Fluent.Types.Interface

/-! Identical types.

To compare two types is to compare their forms and then all pairs of their parts. A pair
that has come up before is not compared again: if it differs, that is found at its first
occurrence. So types that refer to themselves can be compared, and types with many equal
parts take little time. -/

set_option autoImplicit false

namespace Fluent

/-- Types that have to be identical in pairs. -/
abbrev TypePairs := List (Ty × Ty)

/-- Two of the predeclared names are second names of other types. -/
def basicName (name : String) : String :=
  if name = "byte" then "uint8" else if name = "rune" then "int32" else name

/-- The elements at the same places of two lists, if these have the same length. -/
def paired? {α : Type} (first second : List α) : Option (List (α × α)) :=
  if first.length = second.length then some (first.zip second) else none

/-- The parts that are left to compare if the forms agree. -/
def agreedIf (agree : Bool) (parts : TypePairs) : Option TypePairs :=
  if agree then some parts else none

def Signature.parts? (first second : Signature Ty) : Option TypePairs :=
  if first.variadic = second.variadic then
    (paired? first.params second.params).bind fun params =>
      (paired? first.results second.results).map fun results => params ++ results
  else none

namespace Declarations

variable (decls : Declarations)

/-- The parts that two functions need to have in common. Receivers do not count. The second
function's type parameters are taken for those of the first one; their constraints count. -/
def methodParts? (first second : Method) : Option TypePairs :=
  match decls.functions[first.func]?, decls.functions[second.func]? with
  | some function, some other =>
    let matching := other.typeParams.zip (function.typeParams.map Ty.plain)
    let second := { second with args := matching ++ second.args }
    (paired? function.typeParams other.typeParams).bind fun params =>
      let constraints := params.map fun (param, otherParam) =>
        (decls.constraintOf { entry := param, args := first.args },
          decls.constraintOf { entry := otherParam, args := second.args })
      match decls.signatureOf? first, decls.signatureOf? second with
      | some signature, some otherSignature =>
        (signature.parts? otherSignature).map (constraints ++ ·)
      | _, _ => none
  | _, _ => none

/-- The parts of each method and of its counterpart in another list. -/
def methodListParts? (others : List Method) : List Method → Option TypePairs
  | [] => some []
  | method :: methods =>
    (others.find? fun other =>
      decls.functionKey other.func = decls.functionKey method.func).bind fun other =>
        (decls.methodParts? method other).bind fun parts =>
          (methodListParts? others methods).map (parts ++ ·)

/-- The parts that two interfaces need to have in common: they have the same type sets. -/
def interfaceParts? (identical : KnownSets → Ty → Ty → Bool) (known : KnownSets)
    (first second : Ty) : Option TypePairs :=
  let known := decls.learn identical decls.depthBound known first
  let known := decls.learn identical decls.depthBound known second
  match decls.knownSet? known first, decls.knownSet? known second with
  | some set, some other =>
    if set.comparable = other.comparable &&
        Terms.equal (decls.overlaps (identical known)) set.terms other.terms &&
        set.methods.length = other.methods.length
    then decls.methodListParts? other.methods set.methods
    else none
  | _, _ => none

/-- The parts that two types need to have in common, if their forms agree. -/
def parts? (identical : KnownSets → Ty → Ty → Bool) (known : KnownSets) (first second : Ty) :
    Option TypePairs :=
  match decls.shape first, decls.shape second with
  | .basic a, .basic b => agreedIf (basicName a = basicName b) []
  | .pointer a, .pointer b => some [(a, b)]
  | .slice a, .slice b => some [(a, b)]
  | .array m a, .array n b => agreedIf (m < 0 || n < 0 || m = n) [(a, b)]
  | .map k a, .map l b => some [(k, l), (a, b)]
  | .chan d a, .chan e b => agreedIf (d = e) [(a, b)]
  | .struct p as, .struct q bs =>
    (paired? as bs).bind fun pairs =>
      agreedIf (pairs.all fun (a, b) =>
        a.embedded = b.embedded && a.tag = b.tag && decls.answersTo p a.name q b.name)
        (pairs.map fun (a, b) => (a.type, b.type))
  | .tuple as, .tuple bs => paired? as bs
  | .func s, .func t => s.parts? t
  | .union as, .union bs =>
    let sets := decls.typeSetWith identical known
    let terms (terms : List (Term Ty)) : Option (List (Term Ty)) :=
      decls.unionTerms (identical known) sets (some []) terms
    agreedIf (Terms.equal (decls.overlaps (identical known)) (terms as) (terms bs)) []
  | .named i as, .named j bs => if i = j then paired? as bs else none
  | .typeParam i, .typeParam j => agreedIf (i = j) []
  | .interface _ _ _, .interface _ _ _ => decls.interfaceParts? identical known first second
  | _, _ => none

/-- The pairs of different types that have not come up, each at its first place. -/
def freshPairs (known : TypePairs) : TypePairs → TypePairs
  | [] => []
  | (first, second) :: pairs =>
    let first := decls.resolve first
    let second := decls.resolve second
    if first.same second || known.any fun (a, b) => a.same first && b.same second then
      freshPairs known pairs
    else (first, second) :: freshPairs ((first, second) :: known) pairs

/-- Compare the pending pairs of types and their parts; `known` are the pairs that have come up. -/
def agree (parts? : Ty → Ty → Option TypePairs) :
    (fuel : Nat) → (known pending : TypePairs) → Bool
  | 0, _, _ => false
  | _ + 1, _, [] => true
  | fuel + 1, known, (first, second) :: pending =>
    match parts? first second with
    | none => false
    | some parts =>
      let fresh := decls.freshPairs known parts
      agree parts? fuel (known ++ fresh) (fresh ++ pending)

/-- Are pairs of types identical? The limit is on the depth to which interfaces stand in terms of
other interfaces. -/
def identicalWithin : (fuel : Nat) → KnownSets → TypePairs → Bool
  | 0, _, _ => false
  | fuel + 1, known, pairs =>
    let identical (known : KnownSets) (first second : Ty) : Bool :=
      identicalWithin fuel known [(first, second)]
    let fresh := decls.freshPairs [] pairs
    decls.agree (decls.parts? identical known) decls.pairBound fresh fresh

def allIdentical (pairs : TypePairs) : Bool :=
  decls.identicalWithin decls.depthBound [] pairs

def identical (first second : Ty) : Bool :=
  decls.allIdentical [(first, second)]

/-- Do two functions have identical types? Receivers do not count. -/
def identicalMethods (first second : Method) : Bool :=
  ((decls.methodParts? first second).map decls.allIdentical).getD false

def typeSet (type : Ty) : TypeSet :=
  let identical (known : KnownSets) (first second : Ty) : Bool :=
    decls.identicalWithin decls.depthBound known [(first, second)]
  decls.typeSetWith identical [] type

def interfaceMethods (type : Ty) : List Method :=
  (decls.typeSet type).methods

end Declarations

end Fluent
