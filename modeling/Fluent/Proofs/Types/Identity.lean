import Fluent.Proofs.Types.Parameters

/-! What identical types have in common.

A comparison that succeeds has looked at a set of pairs of types that is closed: the forms of each
pair agree, and the pairs of their parts are equal or in the set again. So whatever can be read off
a type by going from forms to parts is the same for both types of a pair. -/

set_option autoImplicit false

namespace Fluent

mutual

theorem Ty.same_iff : ∀ {first second : Ty}, first.same second = true ↔ first = second
  | ⟨first, args⟩, ⟨second, others⟩ => by
    simp only [Ty.same, Bool.and_eq_true, decide_eq_true_eq, Ty.mk.injEq, Ty.sameArgs_iff]

theorem Ty.sameArgs_iff : ∀ {args others : Substitution}, Ty.sameArgs args others = true ↔ args = others
  | [], [] => by simp [Ty.sameArgs]
  | [], _ :: _ => by simp [Ty.sameArgs]
  | _ :: _, [] => by simp [Ty.sameArgs]
  | (first, type) :: args, (second, other) :: others => by
    simp only [Ty.sameArgs, Bool.and_eq_true, decide_eq_true_eq, List.cons.injEq, Prod.mk.injEq,
      @Ty.same_iff type other, @Ty.sameArgs_iff args others]

end

namespace Declarations

variable {decls : Declarations}

/-- The types of a pair behind their aliases. -/
def resolvePair (decls : Declarations) (pair : Ty × Ty) : Ty × Ty :=
  (decls.resolve pair.1, decls.resolve pair.2)

/-- Need the types of a pair no more comparison, if those of some pairs are compared? -/
def Covered (decls : Declarations) (all : TypePairs) (pair : Ty × Ty) : Prop :=
  decls.resolve pair.1 = decls.resolve pair.2 ∨ decls.resolvePair pair ∈ all

theorem Covered.mono {all more : TypePairs} (within : all ⊆ more) {pair : Ty × Ty}
    (covered : decls.Covered all pair) : decls.Covered more pair :=
  covered.imp_right fun member => within member

/-- What is fresh depends only on the types behind the aliases. -/
theorem freshPairs_congr {pairs others : TypePairs}
    (same : pairs.map decls.resolvePair = others.map decls.resolvePair) (known : TypePairs) :
    decls.freshPairs known pairs = decls.freshPairs known others := by
  induction pairs generalizing known others with
  | nil =>
    cases List.map_eq_nil_iff.mp same.symm
    rfl
  | cons pair pairs ih =>
    obtain ⟨other, others, rfl, first, rest⟩ := List.map_eq_cons_iff.mp same.symm
    obtain ⟨left, right⟩ := Prod.mk.inj first
    simp only [freshPairs, left, right, ih rest.symm]

theorem covered_freshPairs (known pairs : TypePairs) :
    ∀ pair ∈ pairs, decls.Covered (known ++ decls.freshPairs known pairs) pair := by
  induction pairs generalizing known with
  | nil => exact List.forall_mem_nil _
  | cons head pairs ih =>
    unfold freshPairs
    simp only
    split
    next old =>
      refine List.forall_mem_cons.mpr ⟨?_, ih known⟩
      rcases Bool.or_eq_true_iff.mp old with equal | before
      · exact Or.inl (Ty.same_iff.mp equal)
      · simp only [List.any_eq_true, Bool.and_eq_true, Ty.same_iff, Prod.exists] at before
        obtain ⟨first, second, member, rfl, rfl⟩ := before
        exact Or.inr (List.mem_append_left _ member)
    next new =>
      refine List.forall_mem_cons.mpr ⟨Or.inr (by simp [resolvePair]), fun pair member => ?_⟩
      exact (ih (decls.resolvePair head :: known) pair member).mono List.perm_middle.symm.subset

/-- Are the forms of two types found to agree, and their parts covered? -/
def Compared (decls : Declarations) (parts? : Ty → Ty → Option TypePairs) (all : TypePairs)
    (pair : Ty × Ty) : Prop :=
  ∃ parts, parts? pair.1 pair.2 = some parts ∧ ∀ part ∈ parts, decls.Covered all part

theorem Compared.mono {parts? : Ty → Ty → Option TypePairs} {all more : TypePairs} (within : all ⊆ more)
    {pair : Ty × Ty} (compared : decls.Compared parts? all pair) : decls.Compared parts? more pair := by
  obtain ⟨parts, found, covered⟩ := compared
  exact ⟨parts, found, fun part member => (covered part member).mono within⟩

/-- A comparison that succeeds ends with a closed set of pairs. -/
theorem exists_compared_of_agree {parts? : Ty → Ty → Option TypePairs} {fuel : Nat}
    {known pending : TypePairs} (agrees : decls.agree parts? fuel known pending = true)
    (done : ∀ pair ∈ known, pair ∈ pending ∨ decls.Compared parts? known pair) :
    ∃ all, known ⊆ all ∧ ∀ pair ∈ all, decls.Compared parts? all pair := by
  -- All pairs that have come up are pending or compared.
  induction fuel generalizing known pending with
  | zero => cases agrees
  | succ fuel ih =>
    cases pending with
    | nil =>
      refine ⟨known, fun _ member => member, fun pair member => ?_⟩
      exact (done pair member).resolve_left List.not_mem_nil
    | cons head pending =>
      unfold agree at agrees
      split at agrees
      next => cases agrees
      next parts found =>
        have wider : known ⊆ known ++ decls.freshPairs known parts := List.subset_append_left _ _
        have now : decls.Compared parts? (known ++ decls.freshPairs known parts) head :=
          ⟨parts, found, covered_freshPairs known parts⟩
        have still : ∀ pair ∈ known ++ decls.freshPairs known parts,
            pair ∈ decls.freshPairs known parts ++ pending ∨
              decls.Compared parts? (known ++ decls.freshPairs known parts) pair := by
          intro pair member
          rcases List.mem_append.mp member with old | fresh
          · rcases done pair old with waiting | compared
            · rcases List.mem_cons.mp waiting with rfl | later
              · exact Or.inr now
              · exact Or.inl (List.mem_append_right _ later)
            · exact Or.inr (compared.mono wider)
          · exact Or.inl (List.mem_append_left _ fresh)
        obtain ⟨all, within, closed⟩ := ih agrees still
        exact ⟨all, fun _ member => within (wider member), closed⟩

theorem eq_of_agreedIf {agree : Bool} {parts found : TypePairs}
    (agreed : agreedIf agree parts = some found) : agree = true ∧ found = parts := by
  cases agree with
  | true => exact ⟨rfl, (Option.some.inj agreed).symm⟩
  | false => cases agreed

theorem paired?_eq_some_iff {α : Type} {first second : List α} {pairs : List (α × α)} :
    paired? first second = some pairs ↔ first.length = second.length ∧ pairs = first.zip second := by
  simp [paired?, eq_comm]

theorem unzip_of_paired? {α : Type} {first second : List α} {pairs : List (α × α)}
    (paired : paired? first second = some pairs) :
    pairs.map Prod.fst = first ∧ pairs.map Prod.snd = second := by
  obtain ⟨same, rfl⟩ := paired?_eq_some_iff.mp paired
  exact ⟨List.map_fst_zip (Nat.le_of_eq same), List.map_snd_zip (Nat.le_of_eq same.symm)⟩

/-- Do two signatures have as many parameters and results, the last parameter taken alike? -/
def Congruent {τ υ : Type} (first : Signature τ) (second : Signature υ) : Prop :=
  first.variadic = second.variadic ∧ first.params.length = second.params.length ∧
    first.results.length = second.results.length

theorem signature_parts?_eq_some_iff {first second : Signature Ty} {pairs : TypePairs} :
    first.parts? second = some pairs ↔ Congruent first second ∧
      pairs = (first.params ++ first.results).zip (second.params ++ second.results) := by
  unfold Signature.parts? Congruent
  split
  next variadic =>
    constructor
    · intro paired
      obtain ⟨params, pairedParams, rest⟩ := Option.bind_eq_some_iff.mp paired
      obtain ⟨results, pairedResults, rfl⟩ := Option.map_eq_some_iff.mp rest
      obtain ⟨sameParams, rfl⟩ := paired?_eq_some_iff.mp pairedParams
      obtain ⟨sameResults, rfl⟩ := paired?_eq_some_iff.mp pairedResults
      exact ⟨⟨variadic, sameParams, sameResults⟩, (List.zip_append sameParams).symm⟩
    · rintro ⟨⟨-, params, results⟩, rfl⟩
      simp [paired?, params, results, List.zip_append params]
  next differ => simp [differ]

theorem unzip_of_signature_parts? {first second : Signature Ty} {pairs : TypePairs}
    (paired : first.parts? second = some pairs) :
    pairs.map Prod.fst = first.params ++ first.results ∧
      pairs.map Prod.snd = second.params ++ second.results := by
  obtain ⟨⟨-, params, results⟩, rfl⟩ := signature_parts?_eq_some_iff.mp paired
  refine unzip_of_paired? (paired?_eq_some_iff.mpr ⟨?_, rfl⟩)
  rw [List.length_append, List.length_append, params, results]

/-- Do two forms agree, with their parts in certain pairs where they consist of them? -/
structure Aligned (first second : Shape Ty) (parts : TypePairs) : Prop where
  structural : first.isStructural = second.isStructural
  param (id : TypeId) : first = .typeParam id ↔ second = .typeParam id
  unzip : first.isStructural = true → parts.map Prod.fst = first.parts ∧ parts.map Prod.snd = second.parts

theorem aligned_of_parts? {identical : KnownSets → Ty → Ty → Bool} {known : KnownSets}
    {first second : Ty} {parts : TypePairs}
    (compared : decls.parts? identical known first second = some parts) :
    Aligned (decls.shape first) (decls.shape second) parts := by
  unfold parts? at compared
  split at compared
  case h_1 left right | h_4 left right | h_6 left right =>
    obtain ⟨-, rfl⟩ := eq_of_agreedIf compared
    rw [left, right]
    exact ⟨rfl, by simp, fun _ => ⟨rfl, rfl⟩⟩
  case h_2 left right | h_3 left right | h_5 left right =>
    cases compared
    rw [left, right]
    exact ⟨rfl, by simp, fun _ => ⟨rfl, rfl⟩⟩
  case h_7 left right =>
    obtain ⟨pairs, paired, agreed⟩ := Option.bind_eq_some_iff.mp compared
    obtain ⟨-, rfl⟩ := eq_of_agreedIf agreed
    obtain ⟨firsts, seconds⟩ := unzip_of_paired? paired
    rw [left, right]
    refine ⟨rfl, by simp, fun _ => ?_⟩
    simp [Shape.parts, ← firsts, ← seconds]
  case h_8 left right =>
    rw [left, right]
    exact ⟨rfl, by simp, fun _ => unzip_of_paired? compared⟩
  case h_9 left right =>
    rw [left, right]
    exact ⟨rfl, by simp, fun _ => unzip_of_signature_parts? compared⟩
  case h_10 left right | h_13 left right =>
    rw [left, right]
    exact ⟨rfl, by simp, fun structural => Bool.noConfusion structural⟩
  case h_11 left right =>
    split at compared
    next =>
      rw [left, right]
      exact ⟨rfl, by simp, fun _ => unzip_of_paired? compared⟩
    next => cases compared
  case h_12 left right =>
    obtain ⟨same, rfl⟩ := eq_of_agreedIf compared
    rw [left, right, of_decide_eq_true same]
    exact ⟨rfl, by simp, fun _ => ⟨rfl, rfl⟩⟩
  case h_14 => cases compared

/-- The fields of struct types that are compared agree in their tags and in what is embedded. -/
theorem fields_of_parts? {identical : KnownSets → Ty → Ty → Bool} {known : KnownSets} {first second : Ty}
    {parts : TypePairs} {package other : Option PackageId} {fields others : List (Field Ty)}
    (left : decls.shape first = .struct package fields) (right : decls.shape second = .struct other others)
    (compared : decls.parts? identical known first second = some parts) :
    fields.map (fun field => (field.tag, field.embedded)) =
      others.map fun field => (field.tag, field.embedded) := by
  rw [parts?, left, right] at compared
  obtain ⟨pairs, paired, agreed⟩ := Option.bind_eq_some_iff.mp compared
  obtain ⟨alike, -⟩ := eq_of_agreedIf agreed
  obtain ⟨rfl, rfl⟩ := unzip_of_paired? paired
  rw [List.map_map, List.map_map]
  refine List.map_congr_left fun pair member => ?_
  have same := List.all_eq_true.mp alike pair member
  simp only [Bool.and_eq_true, decide_eq_true_eq] at same
  exact Prod.ext same.1.2 same.1.1

example :
    let decls : Declarations :=
      { packagePaths := []
        types := #[
          .literal (.basic "int"),
          .literal (.struct none [⟨"N", false, "", 0⟩]),
          .literal (.struct none [⟨"N", false, "json", 0⟩])]
        functions := [] }
    decls.identical (.plain 1) (.plain 1) = true ∧ decls.identical (.plain 1) (.plain 2) = false := by
  decide +kernel

/-- Is a relation between types closed: do the forms of related types agree, with their parts equal or
related again? -/
def Closed (decls : Declarations) (related : Ty → Ty → Prop) : Prop :=
  ∀ first second, related first second → ∃ parts,
    Aligned (decls.shape first) (decls.shape second) parts ∧
      ∀ part ∈ parts, decls.resolve part.1 = decls.resolve part.2 ∨
        related (decls.resolve part.1) (decls.resolve part.2)

theorem Closed.swap {related : Ty → Ty → Prop} (closed : decls.Closed related) :
    decls.Closed fun first second => related second first := by
  intro first second both
  obtain ⟨parts, aligned, covered⟩ := closed second first both
  refine ⟨parts.map Prod.swap, ⟨aligned.structural.symm, fun id => (aligned.param id).symm, ?_⟩, ?_⟩
  · intro structural
    obtain ⟨firsts, seconds⟩ := aligned.unzip (aligned.structural.trans structural)
    rw [List.map_map, List.map_map]
    exact ⟨seconds, firsts⟩
  · intro part member
    obtain ⟨pair, listed, rfl⟩ := List.mem_map.mp member
    exact (covered pair listed).imp_left Eq.symm

/-- Related types show the same type parameters. -/
theorem Closed.shows {related : Ty → Ty → Prop} (closed : decls.Closed related) {param : TypeId}
    {first second : Ty} (both : related first second) (shown : decls.Shows param first) :
    decls.Shows param second := by
  induction shown generalizing second with
  | itself form =>
    obtain ⟨parts, aligned, -⟩ := closed _ _ both
    exact .itself ((aligned.param param).mp form)
  | @part first part structural member shown ih =>
    obtain ⟨parts, aligned, covered⟩ := closed _ _ both
    obtain ⟨firsts, seconds⟩ := aligned.unzip structural
    rw [← firsts] at member
    obtain ⟨pair, listed, rfl⟩ := List.mem_map.mp member
    refine .part (aligned.structural.symm.trans structural) (seconds ▸ List.mem_map_of_mem listed) ?_
    rcases covered pair listed with same | both
    · exact same ▸ shown
    · exact ih both

theorem exists_closed_of_allIdentical {pairs : TypePairs} (same : decls.allIdentical pairs = true) :
    ∃ related, decls.Closed related ∧ ∀ pair ∈ pairs, decls.resolve pair.1 = decls.resolve pair.2 ∨
      related (decls.resolve pair.1) (decls.resolve pair.2) := by
  unfold allIdentical depthBound identicalWithin at same
  obtain ⟨all, within, compared⟩ := exists_compared_of_agree same fun _ member => Or.inl member
  refine ⟨fun first second => (first, second) ∈ all, fun first second both => ?_, fun pair member => ?_⟩
  · obtain ⟨parts, found, covered⟩ := compared _ both
    exact ⟨parts, aligned_of_parts? found, covered⟩
  · exact (covered_freshPairs [] pairs pair member).mono within

theorem shows_iff_of_allIdentical {pairs : TypePairs} (same : decls.allIdentical pairs = true)
    {pair : Ty × Ty} (member : pair ∈ pairs) (param : TypeId) :
    decls.Shows param (decls.resolve pair.1) ↔ decls.Shows param (decls.resolve pair.2) := by
  obtain ⟨related, closed, covered⟩ := exists_closed_of_allIdentical same
  rcases covered pair member with equal | both
  · rw [equal]
  · exact ⟨closed.shows both, closed.swap.shows both⟩

theorem allIdentical_congr {pairs others : TypePairs}
    (same : pairs.map decls.resolvePair = others.map decls.resolvePair) :
    decls.allIdentical pairs = decls.allIdentical others := by
  simp only [allIdentical, depthBound, identicalWithin, freshPairs_congr same]

/-- The types that the type of a function is made of: the constraints of its type parameters, its
parameters and its results. -/
def componentsOf (decls : Declarations) (function : Function) : List TypeId :=
  function.typeParams.map (fun param => (decls.constraintOf (.plain param)).entry) ++
    match decls.types[function.type]? with
    | some (.literal form) => form.parts
    | _ => []

theorem constraintOf_eq (param : TypeId) (args : Substitution) :
    decls.constraintOf ⟨param, args⟩ = ⟨(decls.constraintOf (.plain param)).entry, args⟩ := by
  unfold constraintOf
  split <;> simp_all [Ty.plain]

theorem signatureOf?_eq {func : FuncId} {function : Function}
    (known : decls.functions[func]? = some function) (args : Substitution) :
    decls.signatureOf? ⟨func, args⟩ = decls.signature? ⟨function.type, args⟩ := by
  simp [signatureOf?, known]

theorem exists_written_of_signature? {entry : TypeId} {args : Substitution} {signature : Signature Ty}
    (found : decls.signature? ⟨entry, args⟩ = some signature) :
    ∃ written, decls.types[entry]? = some (.literal (.func written)) ∧
      signature = written.onParts fun entry => ⟨entry, args⟩ := by
  unfold signature? at found
  split at found
  next written known => exact ⟨written, known, (Option.some.inj found).symm⟩
  next => cases found

/-- The arguments by which the type parameters of a function are taken for those of another one. -/
def matching (function other : Function) : Substitution :=
  replacing function.typeParams other.typeParams

theorem map_componentsOf {function : Function} {written : Signature TypeId}
    (right : decls.types[function.type]? = some (.literal (.func written))) (args : Substitution) :
    ((decls.componentsOf function).map fun entry => Ty.mk entry args) =
      (function.typeParams.map fun param => decls.constraintOf ⟨param, args⟩) ++
        (written.params ++ written.results).map fun entry => ⟨entry, args⟩ := by
  simp only [componentsOf, right, Shape.parts, List.map_append, List.map_map, constraintOf_eq _ args]
  rfl

theorem methodParts?_eq {base : Method} {func : FuncId} {other function : Function}
    (declared : decls.functions[base.func]? = some other)
    (known : decls.functions[func]? = some function)
    (counts : other.typeParams.length = function.typeParams.length) {signature : Signature Ty}
    (left : decls.signatureOf? base = some signature) {written : Signature TypeId}
    (right : decls.types[function.type]? = some (.literal (.func written)))
    (congruent : Congruent signature written) (args : Substitution) :
    decls.methodParts? base ⟨func, args⟩ =
      some ((other.typeParams.map (fun param => decls.constraintOf ⟨param, base.args⟩) ++
        (signature.params ++ signature.results)).zip
          ((decls.componentsOf function).map fun entry => ⟨entry, matching function other ++ args⟩)) := by
  have params := paired?_eq_some_iff.mpr ⟨counts, rfl⟩
  have parts (args : Substitution) : signature.parts? (written.onParts fun entry => ⟨entry, args⟩) =
      some ((signature.params ++ signature.results).zip
        ((written.params ++ written.results).map fun entry => ⟨entry, args⟩)) := by
    refine signature_parts?_eq_some_iff.mpr ⟨?_, by rw [List.map_append]; rfl⟩
    simpa [Congruent, Signature.onParts] using congruent
  rw [map_componentsOf right, List.zip_append (by simpa using counts), List.zip_map]
  simp only [methodParts?, declared, known, params, Option.bind_some, left, signatureOf?_eq known,
    signature?, right, parts, Option.map_some]
  rfl

/-- If a function can be compared to a method with some arguments, then it can with any arguments, and
its components are compared to the same types. -/
theorem exists_methodParts?_eq {base : Method} {func : FuncId} {function : Function}
    (known : decls.functions[func]? = some function) {args : Substitution} {parts : TypePairs}
    (found : decls.methodParts? base ⟨func, args⟩ = some parts) :
    ∃ (other : Function) (pairs : List (Ty × TypeId)), decls.functions[base.func]? = some other ∧
      pairs.map Prod.snd = decls.componentsOf function ∧
      ∀ args, decls.methodParts? base ⟨func, args⟩ =
        some (pairs.map fun pair => (pair.1, ⟨pair.2, matching function other ++ args⟩)) := by
  unfold methodParts? at found
  split at found
  next other same declared again =>
    cases known.symm.trans again
    obtain ⟨params, paired, rest⟩ := Option.bind_eq_some_iff.mp found
    obtain ⟨counts, -⟩ := paired?_eq_some_iff.mp paired
    split at rest
    next signature second left right =>
      obtain ⟨pairs, agreed, -⟩ := Option.map_eq_some_iff.mp rest
      rw [signatureOf?_eq known] at right
      obtain ⟨written, literal, rfl⟩ := exists_written_of_signature? right
      obtain ⟨⟨variadic, params, results⟩, -⟩ := signature_parts?_eq_some_iff.mp agreed
      simp only [Signature.onParts, List.length_map] at variadic params results
      have filled := methodParts?_eq declared known counts left literal ⟨variadic, params, results⟩
      simp only [List.zip_map_right] at filled
      refine ⟨other, _, declared, List.map_snd_zip ?_, filled⟩
      simp [componentsOf, literal, Shape.parts, counts, params, results]
    next => cases rest
  next => cases found

theorem identicalMethods_iff {first second : Method} :
    decls.identicalMethods first second = true ↔
      ∃ parts, decls.methodParts? first second = some parts ∧ decls.allIdentical parts = true := by
  unfold identicalMethods
  cases decls.methodParts? first second <;> simp

section

variable {base : Method} {func : FuncId} {function : Function}
  (known : decls.functions[func]? = some function)

include known

/-- Arguments of type parameters that the type of a function does not mention make no difference. -/
theorem identicalMethods_of_unmentioned (ends : decls.AliasesEnd) {args : Substitution}
    (unmentioned : ∀ entry ∈ decls.componentsOf function, ∀ item ∈ args, ¬ decls.Mentions entry item.1)
    (same : decls.identicalMethods base ⟨func, args⟩ = true) :
    decls.identicalMethods base (.plain func) = true := by
  obtain ⟨parts, found, identical⟩ := identicalMethods_iff.mp same
  obtain ⟨other, pairs, -, components, filled⟩ := exists_methodParts?_eq known found
  cases found.symm.trans (filled args)
  refine identicalMethods_iff.mpr ⟨_, filled [], ?_⟩
  rw [← identical]
  apply allIdentical_congr
  rw [List.map_map, List.map_map]
  refine List.map_congr_left fun pair member => Prod.ext rfl ?_
  have component : pair.2 ∈ decls.componentsOf function := components ▸ List.mem_map_of_mem member
  change decls.resolve ⟨pair.2, matching function other ++ []⟩ = decls.resolve ⟨pair.2, _⟩
  rw [List.append_nil, ends.resolve_append (unmentioned pair.2 component)]

/-- Two ways to fill in the type of a function that make it the type of one method show the same type
parameters. -/
theorem shows_iff_of_identicalMethods {args more : Substitution}
    (first : decls.identicalMethods base ⟨func, args⟩ = true)
    (second : decls.identicalMethods base ⟨func, more⟩ = true) :
    ∃ other, decls.functions[base.func]? = some other ∧
      ∀ entry ∈ decls.componentsOf function, ∀ param,
        decls.Shows param (decls.resolve ⟨entry, matching function other ++ args⟩) ↔
          decls.Shows param (decls.resolve ⟨entry, matching function other ++ more⟩) := by
  obtain ⟨parts, found, identical⟩ := identicalMethods_iff.mp first
  obtain ⟨others, again, alike⟩ := identicalMethods_iff.mp second
  obtain ⟨other, pairs, declared, components, filled⟩ := exists_methodParts?_eq known found
  cases found.symm.trans (filled args)
  cases again.symm.trans (filled more)
  refine ⟨other, declared, fun entry member param => ?_⟩
  rw [← components] at member
  obtain ⟨pair, listed, rfl⟩ := List.mem_map.mp member
  have left := shows_iff_of_allIdentical identical (List.mem_map.mpr ⟨pair, listed, rfl⟩) param
  have right := shows_iff_of_allIdentical alike (List.mem_map.mpr ⟨pair, listed, rfl⟩) param
  exact left.symm.trans right

end

end Declarations

end Fluent
