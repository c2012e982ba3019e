import Fluent.Proofs.Graph
import Fluent.Proofs.Types.Receivers

/-! Type parameters and the types that mention them.

An argument makes no difference to a type that does not mention its parameter. A parameter without
an argument shows in every type in which it stands outside of interfaces. Once another parameter is
put in its place, it does not show any more. -/

set_option autoImplicit false

namespace Fluent

/-- Does a form consist of its parts? An interface and a union are known by the types that belong to
them. -/
def Shape.isStructural {τ : Type} : Shape τ → Bool
  | .interface _ _ _ | .union _ => false
  | _ => true

theorem Shape.parts_onParts {τ υ : Type} (f : τ → υ) (shape : Shape τ) :
    (shape.onParts f).parts = shape.parts.map f := by
  cases shape <;> simp [onParts, parts, Signature.onParts]

theorem Shape.isStructural_onParts {τ υ : Type} (f : τ → υ) (shape : Shape τ) :
    (shape.onParts f).isStructural = shape.isStructural := by
  cases shape <;> rfl

/-- Is an entry of the right kind? A type parameter has one of its own kind, and is not written out. -/
def TypeEntry.isProper : TypeEntry → Bool
  | .literal (.typeParam _) => false
  | _ => true

namespace Declarations

variable {decls : Declarations} {entry target param : TypeId} {steps : Nat} {args : Substitution}

def isParam (decls : Declarations) (entry : TypeId) : Bool :=
  match decls.types[entry]? with
  | some (.param _) => true
  | _ => false

def isAlias (decls : Declarations) (entry : TypeId) : Bool :=
  match decls.types[entry]? with
  | some (.alias _) => true
  | _ => false

/-- Does an entry mention another one, directly or not? -/
def Mentions (decls : Declarations) : TypeId → TypeId → Prop :=
  Relation.ReflTransGen (Graph.Leads decls.mentions)

theorem mem_reachable_mentions {other : TypeId} :
    other ∈ Graph.reachable decls.mentions decls.depthBound [entry] ↔ decls.Mentions entry other := by
  have sources (node : TypeId) (some : decls.mentions node ≠ []) :
      node ∈ List.range decls.types.size := by
    rw [List.mem_range]
    by_contra outside
    simp [mentions, Array.getElem?_eq_none (Nat.le_of_not_lt outside)] at some
  rw [Graph.mem_reachable_iff sources (by simp [depthBound])]
  simp [Mentions]

instance (entry other : TypeId) : Decidable (decls.Mentions entry other) :=
  decidable_of_iff _ mem_reachable_mentions

/-- The arguments of the parameters that an entry mentions. -/
def kept (decls : Declarations) (entry : TypeId) (args : Substitution) : Substitution :=
  args.filter fun item => decls.Mentions entry item.1

theorem restrict_eq (entry : TypeId) (args : Substitution) :
    decls.restrict ⟨entry, args⟩ = ⟨entry, decls.kept entry args⟩ := by
  unfold restrict kept
  split
  next empty =>
    cases (show args = [] from empty)
    rfl
  next => simp [mem_reachable_mentions]

theorem mem_kept {item : TypeId × Ty} :
    item ∈ decls.kept entry args ↔ item ∈ args ∧ decls.Mentions entry item.1 := by
  simp [kept]

theorem kept_kept (entry : TypeId) (args : Substitution) :
    decls.kept entry (decls.kept entry args) = decls.kept entry args := by
  simp [kept]

/-- Has a type parameter an argument? -/
def Given (args : Substitution) (param : TypeId) : Prop := param ∈ args.map Prod.fst

theorem not_given_kept (free : ¬ Given args param) (entry : TypeId) :
    ¬ Given (decls.kept entry args) param :=
  fun given => free (List.map_subset _ (List.filter_subset_self _) given)

theorem lookup_eq_none_iff : args.lookup param = none ↔ ¬ Given args param := by
  simp only [Given, List.lookup_eq_none_iff, List.mem_map, not_exists, not_and, bne_iff_ne]
  exact forall₂_congr fun _ _ => ne_comm

theorem resolve_eq_kept (leads : decls.Leads target steps entry) (args : Substitution) :
    decls.resolve ⟨entry, args⟩ =
      if decls.isParam target then (args.lookup target).getD ⟨target, decls.kept target args⟩
      else ⟨target, decls.kept target args⟩ := by
  rw [resolve_eq_of_leads leads]
  unfold resolveWithin isParam
  cases known : decls.types[target]? with
  | none => simp [restrict_eq]
  | some item =>
    rcases item with form | decl | ⟨origin, types⟩ | constraint | elem
    all_goals simp only [restrict_eq, Bool.false_eq_true, if_true, if_false]
    exact (leads.direct elem known).elim

/-- What a type is behind its aliases: the argument of a parameter, or an entry of its own with the
arguments that it needs. -/
inductive ResolvesTo (decls : Declarations) (entry : TypeId) (args : Substitution) : Ty → Prop where
  | argument {steps : Nat} {target : TypeId} {type : Ty} (leads : decls.Leads target steps entry)
      (found : args.lookup target = some type) : ResolvesTo decls entry args type
  | entry {steps : Nat} {target : TypeId} (leads : decls.Leads target steps entry)
      (free : decls.isParam target = true → ¬ Given args target) :
      ResolvesTo decls entry args ⟨target, decls.kept target args⟩

/-- Do all aliases end somewhere? -/
def AliasesEnd (decls : Declarations) : Prop :=
  ∀ entry, ∃ target steps, decls.Leads target steps entry

theorem AliasesEnd.resolvesTo (ends : decls.AliasesEnd) (entry : TypeId) (args : Substitution) :
    decls.ResolvesTo entry args (decls.resolve ⟨entry, args⟩) := by
  obtain ⟨target, steps, leads⟩ := ends entry
  rw [resolve_eq_kept leads]
  split
  next =>
    cases found : args.lookup target with
    | none => exact .entry leads fun _ => lookup_eq_none_iff.mp found
    | some type => exact .argument leads found
  next other => exact .entry leads fun isParam => (other isParam).elim

theorem Leads.mentions (leads : decls.Leads target steps entry) : decls.Mentions entry target := by
  induction leads with
  | here _ => exact .refl
  | @further _ entry elem second _ ih =>
    have next : elem ∈ decls.mentions entry := by simp [Declarations.mentions, second]
    exact .head next ih

/-- Arguments of parameters that a type does not mention make no difference. -/
theorem AliasesEnd.resolve_append (ends : decls.AliasesEnd) {more : Substitution}
    (unmentioned : ∀ item ∈ more, ¬ decls.Mentions entry item.1) :
    decls.resolve ⟨entry, args ++ more⟩ = decls.resolve ⟨entry, args⟩ := by
  obtain ⟨target, steps, leads⟩ := ends entry
  have apart (item : TypeId × Ty) (member : item ∈ more) : ¬ decls.Mentions target item.1 :=
    fun mentioned => unmentioned item member (leads.mentions.trans mentioned)
  have unfound : more.lookup target = none := by
    rw [List.lookup_eq_none_iff]
    intro item member
    have differs : target ≠ item.1 := fun same => apart item member (same ▸ .refl)
    simpa using differs
  have dropped : decls.kept target (args ++ more) = decls.kept target args := by
    have nothing : decls.kept target more = [] := by
      simpa [kept, List.filter_eq_nil_iff] using fun param type member => apart (param, type) member
    rw [kept, List.filter_append]
    exact (congrArg (decls.kept target args ++ ·) nothing).trans (List.append_nil _)
  simp [resolve_eq_kept leads, List.lookup_append, unfound, dropped]

/-- Do some arguments put only other type parameters in the place of type parameters? -/
def Renames (decls : Declarations) (args : Substitution) : Prop :=
  ∀ item ∈ args, ∃ param, decls.isParam param = true ∧ item.2 = .plain param

theorem Renames.append {more : Substitution} (renames : decls.Renames args)
    (others : decls.Renames more) : decls.Renames (args ++ more) :=
  List.forall_mem_append.mpr ⟨renames, others⟩

theorem Renames.kept (renames : decls.Renames args) (entry : TypeId) :
    decls.Renames (decls.kept entry args) :=
  fun item member => renames item (mem_kept.mp member).1

theorem Renames.of_lookup (renames : decls.Renames args) {type : Ty}
    (found : args.lookup target = some type) :
    ∃ other, decls.isParam other = true ∧ (target, Ty.plain other) ∈ args ∧ type = .plain other := by
  obtain ⟨before, after, rfl, -⟩ := List.lookup_eq_some_iff.mp found
  obtain ⟨other, isParam, rfl⟩ := renames (target, type) (by simp)
  exact ⟨other, isParam, by simp, rfl⟩

/-- The arguments that put type parameters in the place of others. -/
def replacing (params others : List TypeId) : Substitution := params.zip (others.map Ty.plain)

theorem renames_replacing {params others : List TypeId}
    (all : ∀ other ∈ others, decls.isParam other = true) : decls.Renames (replacing params others) := by
  intro item member
  obtain ⟨other, listed, same⟩ := List.mem_map.mp (List.of_mem_zip member).2
  exact ⟨other, all other listed, same.symm⟩

theorem ne_plain_of_mem_replacing {params others : List TypeId} (absent : param ∉ others) :
    ∀ item ∈ replacing params others, item.2 ≠ .plain param := by
  intro item member itself
  obtain ⟨other, listed, same⟩ := List.mem_map.mp (List.of_mem_zip member).2
  cases same.trans itself
  exact absent listed

theorem mem_of_given_replacing {params others : List TypeId}
    (given : Given (replacing params others) param) : param ∈ params := by
  obtain ⟨item, member, rfl⟩ := List.mem_map.mp given
  exact (List.of_mem_zip member).1

theorem given_replacing {params others : List TypeId} (counts : params.length = others.length)
    (member : param ∈ params) : Given (replacing params others) param := by
  rw [Given, replacing, List.map_fst_zip (by simp [counts])]
  exact member

theorem direct_of_isParam (isParam : decls.isParam param = true) (elem : TypeId) :
    decls.types[param]? ≠ some (.alias elem) := by
  intro second
  simp [Declarations.isParam, second] at isParam

theorem resolve_param (isParam : decls.isParam param = true) :
    decls.resolve (.plain param) = .plain param :=
  resolve_of_leads (.here (direct_of_isParam isParam))

theorem resolve_kept (direct : ∀ elem, decls.types[target]? ≠ some (.alias elem))
    (free : decls.isParam target = true → ¬ Given args target) :
    decls.resolve ⟨target, decls.kept target args⟩ = ⟨target, decls.kept target args⟩ := by
  rw [resolve_eq_kept (.here direct), kept_kept]
  split
  next isParam => rw [lookup_eq_none_iff.mpr (not_given_kept (free isParam) target), Option.getD_none]
  next => rfl

theorem AliasesEnd.resolve_resolve (ends : decls.AliasesEnd) (renames : decls.Renames args)
    (entry : TypeId) : decls.resolve (decls.resolve ⟨entry, args⟩) = decls.resolve ⟨entry, args⟩ := by
  generalize same : decls.resolve ⟨entry, args⟩ = type
  have resolves := ends.resolvesTo entry args
  rw [same] at resolves
  cases resolves with
  | argument _ found =>
    obtain ⟨other, isParam, -, rfl⟩ := renames.of_lookup found
    exact resolve_param isParam
  | entry leads free => exact resolve_kept leads.direct free

/-- The parts of a type, where it consists of them, are what its entry mentions. -/
theorem AliasesEnd.map_resolve_parts (ends : decls.AliasesEnd) (renames : decls.Renames args)
    (direct : ∀ elem, decls.types[target]? ≠ some (.alias elem)) (other : decls.isParam target = false)
    (structural : (decls.shape ⟨target, decls.kept target args⟩).isStructural = true) :
    (decls.shape ⟨target, decls.kept target args⟩).parts.map decls.resolve =
      (decls.mentions target).map fun inner => decls.resolve ⟨inner, decls.kept target args⟩ := by
  have fixed : decls.resolve ⟨target, decls.kept target args⟩ = ⟨target, decls.kept target args⟩ :=
    resolve_kept direct (by simp [other])
  unfold shape at structural ⊢
  simp only [fixed] at structural ⊢
  unfold mentions
  cases known : decls.types[target]? with
  | none => rfl
  | some item =>
    rcases item with form | decl | ⟨origin, types⟩ | constraint | elem
    · simp only [known, Shape.isStructural_onParts] at structural
      cases form <;> simp_all [Shape.isStructural, Shape.parts_onParts]
    · rfl
    · simp [Shape.parts, ends.resolve_resolve (renames.kept target)]
    · simp [isParam, known] at other
    · exact (direct elem known).elim

/-- Does a type show a type parameter outside of interfaces? -/
inductive Shows (decls : Declarations) (param : TypeId) : Ty → Prop where
  | itself {type : Ty} (form : decls.shape type = .typeParam param) : Shows decls param type
  | part {type part : Ty} (structural : (decls.shape type).isStructural = true)
      (member : part ∈ (decls.shape type).parts) (shown : Shows decls param (decls.resolve part)) :
      Shows decls param type

/-- Does an entry stand for a type that is made of what it mentions? -/
def isComposed (decls : Declarations) (entry : TypeId) : Bool :=
  match decls.types[entry]? with
  | some (.literal shape) => shape.isStructural
  | some (.instantiated _ _) | some (.alias _) => true
  | _ => false

/-- Does a type parameter stand in an entry, outside of interfaces? -/
inductive StandsIn (decls : Declarations) (param : TypeId) : TypeId → Prop where
  | itself (isParam : decls.isParam param = true) : StandsIn decls param param
  | inside {entry inner : TypeId} (composed : decls.isComposed entry = true)
      (member : inner ∈ decls.mentions entry) (rest : StandsIn decls param inner) :
      StandsIn decls param entry

theorem shape_param (isParam : decls.isParam param = true) (free : ¬ Given args param) :
    decls.shape ⟨param, decls.kept param args⟩ = .typeParam param := by
  have fixed : decls.resolve ⟨param, decls.kept param args⟩ = ⟨param, decls.kept param args⟩ :=
    resolve_kept (direct_of_isParam isParam) fun _ => free
  unfold Declarations.isParam at isParam
  split at isParam
  next constraint known => simp only [shape, fixed, known]
  next => cases isParam

theorem isStructural_of_isComposed (composed : decls.isComposed entry = true)
    (direct : ∀ elem, decls.types[entry]? ≠ some (.alias elem)) (args : Substitution) :
    decls.isParam entry = false ∧
      (decls.shape ⟨entry, decls.kept entry args⟩).isStructural = true := by
  have other : decls.isParam entry = false := by
    unfold isComposed at composed
    unfold isParam
    split at composed <;> simp_all
  have fixed : decls.resolve ⟨entry, decls.kept entry args⟩ = ⟨entry, decls.kept entry args⟩ :=
    resolve_kept direct (by simp [other])
  refine ⟨other, ?_⟩
  unfold isComposed at composed
  split at composed
  next form known => simpa only [shape, fixed, known, Shape.isStructural_onParts] using composed
  next origin types known => simp only [shape, fixed, known, Shape.isStructural]
  next elem second => exact (direct elem second).elim
  next => cases composed

theorem AliasesEnd.resolve_alias (ends : decls.AliasesEnd) {elem : TypeId}
    (second : decls.types[entry]? = some (.alias elem)) (args : Substitution) :
    decls.resolve ⟨entry, args⟩ = decls.resolve ⟨elem, args⟩ := by
  obtain ⟨target, steps, leads⟩ := ends elem
  rw [resolve_eq_kept leads, resolve_eq_kept (.further second leads)]

/-- A type parameter shows where it stands, unless it has an argument. -/
theorem AliasesEnd.shows (ends : decls.AliasesEnd) (stands : decls.StandsIn param entry)
    (renames : decls.Renames args) (free : ¬ Given args param) :
    decls.Shows param (decls.resolve ⟨entry, args⟩) := by
  induction stands generalizing args with
  | itself isParam =>
    have resolved := resolve_eq_kept (.here (direct_of_isParam isParam)) args
    rw [if_pos isParam, lookup_eq_none_iff.mpr free, Option.getD_none] at resolved
    rw [resolved]
    exact .itself (shape_param isParam free)
  | @inside entry inner composed member _ ih =>
    by_cases isAlias : ∃ elem, decls.types[entry]? = some (.alias elem)
    · obtain ⟨elem, second⟩ := isAlias
      simp only [mentions, second, List.mem_singleton] at member
      rw [ends.resolve_alias second, ← member]
      exact ih renames free
    · have direct := not_exists.mp isAlias
      obtain ⟨other, structural⟩ := isStructural_of_isComposed composed direct args
      have resolved := resolve_eq_kept (.here direct) args
      rw [if_neg (by simp [other])] at resolved
      have among : decls.resolve ⟨inner, decls.kept entry args⟩ ∈
          (decls.shape ⟨entry, decls.kept entry args⟩).parts.map decls.resolve := by
        rw [ends.map_resolve_parts renames direct other structural]
        exact List.mem_map.mpr ⟨inner, member, rfl⟩
      obtain ⟨part, inParts, same⟩ := List.mem_map.mp among
      rw [resolved]
      refine .part structural inParts ?_
      rw [same]
      exact ih (renames.kept entry) (not_given_kept free entry)

/-- A type that shows as a type parameter is given by the entry of this parameter. -/
theorem eq_of_shape_typeParam (unwritten : decls.types[target]? ≠ some (.literal (.typeParam param)))
    (fixed : decls.resolve ⟨target, args⟩ = ⟨target, args⟩)
    (form : decls.shape ⟨target, args⟩ = .typeParam param) :
    target = param ∧ decls.isParam target = true := by
  simp only [shape, fixed] at form
  split at form
  next literal known =>
    cases literal <;> simp only [Shape.onParts, reduceCtorEq, Shape.typeParam.injEq] at form
    rw [form] at known
    exact (unwritten known).elim
  next => cases form
  next => cases form
  next constraint known => exact ⟨Shape.typeParam.inj form, by simp only [isParam, known]⟩
  next => cases form
  next => cases form

/-- A type parameter does not show in a type that puts other ones in its place. -/
theorem AliasesEnd.not_shows (ends : decls.AliasesEnd)
    (unwritten : ∀ entry : TypeId, decls.types[entry]? ≠ some (.literal (.typeParam param)))
    (renames : decls.Renames args) (apart : ∀ item ∈ args, item.2 ≠ .plain param)
    (given : decls.Mentions entry param → Given args param) :
    ¬ decls.Shows param (decls.resolve ⟨entry, args⟩) := by
  -- With the type go an entry that gives it and arguments in which the parameter is replaced.
  intro shown
  generalize same : decls.resolve ⟨entry, args⟩ = type at shown
  induction shown generalizing entry args with
  | itself form =>
    have resolves := ends.resolvesTo entry args
    rw [same] at resolves
    cases resolves with
    | argument leads found =>
      obtain ⟨other, isParam, member, rfl⟩ := renames.of_lookup found
      obtain ⟨rfl, -⟩ := eq_of_shape_typeParam (unwritten _) (resolve_param isParam) form
      exact apart _ member rfl
    | entry leads free =>
      obtain ⟨rfl, isParam⟩ :=
        eq_of_shape_typeParam (unwritten _) (resolve_kept leads.direct free) form
      exact free isParam (given leads.mentions)
  | @part _ part structural member _ ih =>
    have resolves := ends.resolvesTo entry args
    rw [same] at resolves
    cases resolves with
    | argument leads found =>
      obtain ⟨other, isParam, -, rfl⟩ := renames.of_lookup found
      have form : decls.shape (.plain other) = .typeParam other :=
        @shape_param decls other [] isParam List.not_mem_nil
      rw [form] at member
      cases member
    | @entry steps target leads free =>
      by_cases isParam : decls.isParam target = true
      · rw [shape_param isParam (free isParam)] at member
        cases member
      · have other := eq_false_of_ne_true isParam
        have among : decls.resolve part ∈
            (decls.shape ⟨target, decls.kept target args⟩).parts.map decls.resolve :=
          List.mem_map.mpr ⟨part, member, rfl⟩
        rw [ends.map_resolve_parts renames leads.direct other structural] at among
        obtain ⟨inner, mentioned, resolved⟩ := List.mem_map.mp among
        refine ih (renames.kept target) ?_ ?_ resolved
        · exact fun item kept => apart item (mem_kept.mp kept).1
        · intro mentions
          have within : decls.Mentions target param := .head mentioned mentions
          obtain ⟨item, listed, rfl⟩ := List.mem_map.mp (given (leads.mentions.trans within))
          exact List.mem_map.mpr ⟨item, mem_kept.mpr ⟨listed, within⟩, rfl⟩

/-- The type parameters of declared types and of functions. -/
def typeParams (decls : Declarations) : List TypeId :=
  (decls.types.toList.flatMap fun
    | .declared decl => decl.typeParams
    | _ => []) ++ decls.functions.flatMap Function.typeParams

theorem typeParams_subset_of_declared {id : NamedId} {decl : NamedDecl}
    (known : decls.named? id = some decl) : decl.typeParams ⊆ decls.typeParams := by
  intro param member
  have listed := Array.mem_toList_iff.mpr (Array.mem_of_getElem? (entry_of_named? known))
  exact List.mem_append_left _ (List.mem_flatMap.mpr ⟨_, listed, member⟩)

theorem typeParams_subset_of_function {func : FuncId} {function : Function}
    (known : decls.functions[func]? = some function) : function.typeParams ⊆ decls.typeParams := by
  intro param member
  exact List.mem_append_right _ (List.mem_flatMap.mpr ⟨_, List.mem_of_getElem? known, member⟩)

/-- Does a method name as many type parameters in its receiver as the type has that it belongs to? The
methods of an interface name none. -/
def receiverParamsFit (decls : Declarations) (func : FuncId) (function : Function) : Bool :=
  (decls.receiverBase? func).all fun id =>
    decls.isInterface (.plain id) ||
      (decls.named? id).all fun decl => function.receiverParams.length = decl.typeParams.length

/-- What a type checker makes sure of where type parameters are declared: aliases end somewhere, type
parameters have entries of their own kind, and each method names those of its receiver anew. -/
structure WellParameterized (decls : Declarations) : Prop where
  aliases : ∀ entry < decls.types.size, decls.isAlias (decls.resolve (.plain entry)).entry = false
  literals : ∀ entry ∈ decls.types.toList, entry.isProper = true
  params : ∀ param ∈ decls.typeParams, decls.isParam param = true
  receivers : ∀ function ∈ decls.functions, ∀ param ∈ function.receiverParams, param ∉ decls.typeParams
  counts : ∀ item ∈ decls.functions.zipIdx, decls.receiverParamsFit item.2 item.1 = true

theorem exists_leads_of_resolveWithin {fuel : Nat}
    (ends : decls.isAlias (decls.resolveWithin fuel (.plain entry)).entry = false) :
    ∃ target steps, decls.Leads target steps entry := by
  induction fuel generalizing entry with
  | zero =>
    refine ⟨entry, 0, .here fun elem second => ?_⟩
    simp [resolveWithin, Ty.plain, isAlias, second] at ends
  | succ fuel ih =>
    by_cases isAlias : ∃ elem, decls.types[entry]? = some (.alias elem)
    · obtain ⟨elem, second⟩ := isAlias
      have further :
          decls.resolveWithin (fuel + 1) (.plain entry) = decls.resolveWithin fuel (.plain elem) := by
        simp only [resolveWithin, Ty.plain, second]
      rw [further] at ends
      obtain ⟨target, steps, leads⟩ := ih ends
      exact ⟨target, steps + 1, .further second leads⟩
    · exact ⟨entry, 0, .here (not_exists.mp isAlias)⟩

namespace WellParameterized

variable (parameterized : decls.WellParameterized)

include parameterized

theorem aliasesEnd : decls.AliasesEnd := by
  intro entry
  by_cases inside : entry < decls.types.size
  · exact exists_leads_of_resolveWithin (parameterized.aliases entry inside)
  · refine ⟨entry, 0, .here fun elem second => ?_⟩
    exact inside (Array.getElem?_eq_some_iff.mp second).1

theorem unwritten (param entry : TypeId) :
    decls.types[entry]? ≠ some (.literal (.typeParam param)) := by
  intro known
  have proper := parameterized.literals _ (Array.mem_toList_iff.mpr (Array.mem_of_getElem? known))
  cases proper

theorem counted {func : FuncId} {function : Function} {id : NamedId} {decl : NamedDecl}
    (known : decls.functions[func]? = some function) (owned : decls.receiverBase? func = some id)
    (concrete : decls.isInterface (.plain id) = false) (declared : decls.named? id = some decl) :
    function.receiverParams.length = decl.typeParams.length := by
  have fits := parameterized.counts (function, func) (List.mem_zipIdx_iff_getElem?.mpr known)
  simpa [receiverParamsFit, owned, concrete, declared] using fits

end WellParameterized

end Declarations

end Fluent
