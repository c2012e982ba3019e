import Fluent.Types.MethodSet
import Mathlib.Data.List.Basic
import Mathlib.Logic.Relation

/-! Where the methods of a type come from.

A method that a type answers with is declared on a type that it embeds, at some depth, or is
written in an interface of the table. With the receivers that a type checker gives to methods,
the declared types of the methods on a way of redeclarations then embed each other in turn. -/

set_option autoImplicit false

namespace Fluent.Declarations

variable {decls : Declarations}

/-- Does a struct type embed a type, directly or by a pointer? -/
def Embeds (decls : Declarations) (outer inner : Ty) : Prop :=
  ∃ package fields, decls.underlying outer = .struct package fields ∧
    ∃ field ∈ fields, field.embedded = true ∧ decls.deref field.type = inner

/-- Does a declared type embed another one, at some depth? -/
def EmbedsDeclared (decls : Declarations) (outer inner : NamedId) : Prop :=
  ∃ type args, Relation.TransGen decls.Embeds (.plain outer) type ∧ decls.shape type = .named inner args

/-- No declared type embeds itself by way of others. -/
def AcyclicEmbedding (decls : Declarations) : Prop :=
  ∀ id, ¬ Relation.TransGen decls.EmbedsDeclared id id

/-- Do the methods of an entry have the receivers that fit it? A method declared on a type has
that type, and a method of an interface an interface. -/
def receiversFit (decls : Declarations) (id : TypeId) : TypeEntry → Bool
  | .declared decl => decl.methods.all fun func => (decls.receiverBase? func).all fun base => base = id
  | .literal (.interface _ methods _) =>
    methods.all fun func => (decls.receiverBase? func).all fun base => decls.isInterface (.plain base)
  | _ => true

/-- Do all methods have the receivers that a type checker gives them? -/
def WellReceived (decls : Declarations) : Prop :=
  ∀ item ∈ decls.types.toList.zipIdx, decls.receiversFit item.2 item.1 = true

instance (decls : Declarations) : Decidable decls.WellReceived :=
  inferInstanceAs (Decidable (∀ item ∈ decls.types.toList.zipIdx, _))

theorem WellReceived.fit (received : decls.WellReceived) {id : TypeId} {entry : TypeEntry}
    (selected : decls.types[id]? = some entry) : decls.receiversFit id entry = true := by
  refine received (entry, id) (List.mem_zipIdx_iff_getElem?.mpr ?_)
  rw [Array.getElem?_toList]
  exact selected

theorem entry_of_named? {id : NamedId} {decl : NamedDecl} (known : decls.named? id = some decl) :
    decls.types[id]? = some (.declared decl) := by
  unfold named? at known
  split at known
  next found => rw [found, Option.some.inj known]
  next => cases known

theorem WellReceived.declared (received : decls.WellReceived) {id base : NamedId} {decl : NamedDecl}
    (selected : decls.named? id = some decl) {func : FuncId} (member : func ∈ decl.methods)
    (owner : decls.receiverBase? func = some base) : base = id := by
  have fits := List.all_eq_true.mp (received.fit (entry_of_named? selected)) func member
  simpa [owner] using fits

def Written (decls : Declarations) (func : FuncId) : Prop :=
  ∃ (entry : TypeId) (comparable : Bool) (methods : List FuncId) (embeds : List TypeId),
    decls.types[entry]? = some (.literal (.interface comparable methods embeds)) ∧ func ∈ methods

theorem WellReceived.written (received : decls.WellReceived) {func : FuncId} {base : NamedId}
    (written : decls.Written func) (owner : decls.receiverBase? func = some base) :
    decls.isInterface (.plain base) = true := by
  obtain ⟨entry, comparable, methods, embeds, selected, member⟩ := written
  have fits := List.all_eq_true.mp (received.fit selected) func member
  simpa [owner] using fits

theorem written_of_shape {type : Ty} {comparable : Bool} {methods : List FuncId} {embeds : List Ty}
    (form : decls.shape type = .interface comparable methods embeds) {func : FuncId}
    (member : func ∈ methods) : decls.Written func := by
  unfold shape at form
  simp only at form
  split at form
  next literal selected =>
    cases literal <;> simp only [Shape.onParts, Shape.interface.injEq, reduceCtorEq] at form
    obtain ⟨rfl, rfl, -⟩ := form
    exact ⟨_, _, _, _, selected, member⟩
  all_goals cases form

theorem distinctMethods_subset (taken : List String) (methods : List Method) :
    decls.distinctMethods taken methods ⊆ methods := by
  induction methods generalizing taken with
  | nil => exact List.nil_subset _
  | cons method methods ih =>
    unfold distinctMethods
    simp only
    split
    · exact List.subset_cons_of_subset _ (ih taken)
    · exact List.cons_subset_cons _ (ih _)

def AllWritten (decls : Declarations) (set : TypeSet) : Prop :=
  ∀ method ∈ set.methods, decls.Written method.func

theorem AllWritten.all : decls.AllWritten .all := fun _ member => nomatch member

theorem methods_meet (identical : Ty → Ty → Bool) (sets : Ty → TypeSet) (first second : TypeSet) :
    (decls.meet identical sets first second).methods =
      decls.distinctMethods [] (first.methods ++ second.methods) := by
  unfold meet
  simp only
  split <;> rfl

theorem AllWritten.meet {identical : Ty → Ty → Bool} {sets : Ty → TypeSet} {first second : TypeSet}
    (left : decls.AllWritten first) (right : decls.AllWritten second) :
    decls.AllWritten (decls.meet identical sets first second) := by
  intro method member
  rw [methods_meet] at member
  rcases List.mem_append.mp (distinctMethods_subset _ _ member) with member | member
  · exact left method member
  · exact right method member

theorem AllWritten.element {identical : Ty → Ty → Bool} {sets : Ty → TypeSet} {embed : Ty}
    (written : decls.AllWritten (sets embed)) :
    decls.AllWritten (decls.elementSet identical sets embed) := by
  unfold elementSet
  split
  · exact written
  · exact AllWritten.all
  · split
    · exact AllWritten.all
    · exact fun _ member => nomatch member

def KnownWritten (decls : Declarations) (known : KnownSets) : Prop :=
  ∀ item ∈ known, decls.AllWritten item.2

theorem KnownWritten.set {known : KnownSets} (written : decls.KnownWritten known) (type : Ty) :
    decls.AllWritten ((decls.knownSet? known type).getD .all) := by
  cases known' : decls.knownSet? known type with
  | none => exact AllWritten.all
  | some set =>
    obtain ⟨item, found, rfl⟩ := Option.map_eq_some_iff.mp known'
    exact written item (List.mem_of_find?_eq_some found)

theorem KnownWritten.learn {identical : KnownSets → Ty → Ty → Bool} {known : KnownSets}
    (written : decls.KnownWritten known) (fuel : Nat) (type : Ty) :
    decls.KnownWritten (decls.learn identical fuel known type) := by
  induction fuel generalizing known type with
  | zero => exact written
  | succ fuel ih =>
    unfold Declarations.learn
    simp only
    split
    next comparable methods embeds _ form =>
      -- While the set is being found, the interface itself counts as demanding nothing.
      have rest : decls.KnownWritten ((embeds.flatMap decls.elements).foldl
          (decls.learn identical fuel) ((decls.core type, .all) :: known)) :=
        List.foldlRecOn _ _ (List.forall_mem_cons.mpr ⟨AllWritten.all, written⟩)
          fun _ known embed _ => ih known embed
      refine List.forall_mem_cons.mpr ⟨?_, rest⟩
      refine List.foldlRecOn _ _ ?_ fun _ set embed _ => set.meet (((ih rest embed).set embed).element)
      intro method member
      obtain ⟨func, listed, rfl⟩ := List.mem_map.mp (distinctMethods_subset _ _ member)
      exact written_of_shape form listed
    next => exact written

theorem written_of_interfaceMethods {type : Ty} {method : Method}
    (member : method ∈ decls.interfaceMethods type) : decls.Written method.func := by
  have nothing : decls.KnownWritten [] := fun _ member => nomatch member
  exact (nothing.learn decls.depthBound type).set type method member

/-- A method of a type itself is declared on it or written in an interface. -/
theorem ownMember?_method {package : Option PackageId} {name : String} {type : Ty} {method : Method}
    (found : decls.ownMember? package name type = some (.method method)) :
    (∃ id args decl, decls.shape type = .named id args ∧ decls.named? id = some decl ∧
      method.func ∈ decl.methods) ∨ decls.Written method.func := by
  unfold ownMember? at found
  simp only at found
  split at found
  next own selected =>
    cases found
    have member := List.mem_of_find?_eq_some selected
    unfold declaredMethods at member
    split at member
    next id args form =>
      split at member
      next decl known =>
        obtain ⟨func, listed, same⟩ := List.mem_filterMap.mp member
        obtain ⟨_, -, rfl⟩ := Option.map_eq_some_iff.mp same
        exact Or.inl ⟨id, args, decl, form, known, listed⟩
      next => cases member
    next => cases member
  next =>
    split at found
    · obtain ⟨_, -, same⟩ := Option.map_eq_some_iff.mp found
      cases same
    · obtain ⟨_, selected, same⟩ := Option.map_eq_some_iff.mp found
      cases same
      exact Or.inr (written_of_interfaceMethods (List.mem_of_find?_eq_some selected))
    · cases found

theorem embeds_iff {outer : Embedding} {type : Ty} :
    decls.Embeds outer.type type ↔ ∃ inner ∈ decls.embeddings outer, inner.type = type := by
  constructor
  · rintro ⟨package, fields, form, field, listed, embedded, rfl⟩
    refine ⟨⟨decls.deref field.type, outer.multiple⟩, ?_, rfl⟩
    simp only [embeddings, form]
    exact List.mem_map.mpr ⟨field, List.mem_filter.mpr ⟨listed, embedded⟩, rfl⟩
  · rintro ⟨inner, member, rfl⟩
    unfold embeddings at member
    split at member
    next package fields form =>
      obtain ⟨field, selected, rfl⟩ := List.mem_map.mp member
      obtain ⟨listed, embedded⟩ := List.mem_filter.mp selected
      exact ⟨package, fields, form, field, listed, embedded, rfl⟩
    next => cases member

theorem mem_consolidate {level : List Embedding} {embedding : Embedding}
    (member : embedding ∈ decls.consolidate level) :
    ∃ other ∈ level, other.type = embedding.type := by
  induction level with
  | nil => cases member
  | cons first rest ih =>
    simp only [consolidate, List.partition_eq_filter_filter] at member
    rcases List.mem_cons.mp member with rfl | later
    · exact ⟨first, List.mem_cons_self, rfl⟩
    · obtain ⟨other, listed, same⟩ := ih (List.mem_filter.mp later).1
      exact ⟨other, List.mem_cons_of_mem _ listed, same⟩

/-- What the search finds is a member of a type embedded, at some depth, in one of the level. -/
theorem searchMember_found {package : Option PackageId} {name : String} {fuel : Nat} {seen : List Ty}
    {level : List Embedding} {member : Member}
    (found : decls.searchMember package name fuel seen level = some member) :
    ∃ start ∈ level, ∃ inner, Relation.ReflTransGen decls.Embeds start.type inner ∧
      decls.ownMember? package name inner = some member := by
  induction fuel generalizing seen level with
  | zero => cases found
  | succ fuel ih =>
    have kept {embedding : Embedding} (inside : embedding ∈ decls.unseen seen level) :
        embedding ∈ level := (List.mem_filter.mp inside).1
    unfold searchMember at found
    simp only at found
    split at found
    next =>
      split at found
      next => cases found
      next =>
        obtain ⟨deeper, inside, inner, way, own⟩ := ih found
        -- The next level is embedded in this one.
        obtain ⟨other, listed, same⟩ := mem_consolidate inside
        obtain ⟨start, inLevel, below⟩ := List.mem_flatMap.mp listed
        rw [← same] at way
        exact ⟨start, kept inLevel, inner, .head (embeds_iff.mpr ⟨other, below, rfl⟩) way, own⟩
    next only selected =>
      cases found
      have inside : (false, member) ∈ [(false, member)] := List.mem_singleton.mpr rfl
      rw [← selected] at inside
      obtain ⟨start, inLevel, own⟩ := List.mem_filterMap.mp inside
      obtain ⟨_, own, same⟩ := Option.map_eq_some_iff.mp own
      rw [(Prod.mk.inj same).2] at own
      exact ⟨start, kept inLevel, start.type, .refl, own⟩
    next => cases found

theorem method?_found {package : Option PackageId} {name : String} {type : Ty} {method : Method}
    (found : decls.method? type package name = some method) :
    ∃ inner, Relation.ReflTransGen decls.Embeds (decls.deref type) inner ∧
      decls.ownMember? package name inner = some (.method method) := by
  unfold method? at found
  split at found
  · cases found
  · split at found
    next same selected =>
      cases found
      unfold member? memberOf? at selected
      split at selected
      · cases selected
      · obtain ⟨start, only, inner, way, own⟩ := searchMember_found selected
        rw [List.mem_singleton.mp only] at way
        exact ⟨inner, way, own⟩
    next => cases found

/-- The receiver of a method that an embedded field has is embedded too, unless it is an interface. -/
theorem WellReceived.receiver_of_embedded (received : decls.WellReceived) {outer inner : NamedId}
    {package : Option PackageId} {fields : List (Field Ty)} {field : Field Ty}
    (form : decls.underlying (.plain outer) = .struct package fields) (listed : field ∈ fields)
    (embedded : field.embedded = true) {user : Option PackageId} {name : String} {method : Method}
    (found : decls.method? field.type user name = some method)
    (owned : decls.receiverBase? method.func = some inner) :
    decls.isInterface (.plain inner) = true ∨ decls.EmbedsDeclared outer inner := by
  obtain ⟨type, way, own⟩ := method?_found found
  -- The receiver of a declared method is the type it is declared on.
  rcases ownMember?_method own with ⟨id, args, decl, named, known, member⟩ | written
  · refine Or.inr ⟨type, args, .head' ⟨package, fields, form, field, listed, embedded, rfl⟩ way, ?_⟩
    rw [received.declared known member owned]
    exact named
  · exact Or.inl (received.written written owned)

theorem resolve_of_missing {id : TypeId} (missing : decls.types[id]? = none) :
    decls.resolve (.plain id) = .plain id := by
  simp [resolve, depthBound, resolveWithin, Ty.plain, missing, restrict]

theorem shape_of_missing {id : TypeId} (missing : decls.types[id]? = none) :
    decls.shape (.plain id) = .invalid := by
  simp only [shape, resolve_of_missing missing]
  simp only [Ty.plain, missing]

theorem underlying_of_missing {id : TypeId} (missing : decls.types[id]? = none) :
    decls.underlying (.plain id) = .invalid := by
  simp [underlying, core, expand, shape_of_missing missing, resolve_of_missing missing, Shape.invalid]

/-- There is no circle if all types embed one declared type only, which embeds nothing. -/
theorem AcyclicEmbedding.of_flat {innermost : NamedId}
    (flat : ∀ id < decls.types.size, ∀ inner ∈ decls.embeddings ⟨.plain id, false⟩,
      id ≠ innermost ∧ decls.base? inner.type = some innermost ∧ decls.embeddings ⟨inner.type, false⟩ = []) :
    decls.AcyclicEmbedding := by
  have only {outer inner : NamedId} (embeds : decls.EmbedsDeclared outer inner) :
      outer ≠ innermost ∧ inner = innermost := by
    obtain ⟨type, args, way, named⟩ := embeds
    obtain ⟨next, step, rest⟩ := Relation.TransGen.head'_iff.mp way
    obtain ⟨first, member, rfl⟩ := (@embeds_iff _ ⟨.plain outer, false⟩ _).mp step
    -- What is no entry of the table embeds nothing.
    have inside : outer < decls.types.size := by
      by_contra outside
      simp [embeddings, underlying_of_missing (Array.getElem?_eq_none (Nat.le_of_not_lt outside)),
        Shape.invalid] at member
    obtain ⟨apart, base, nothing⟩ := flat outer inside first member
    rcases rest.cases_head with rfl | ⟨further, step, -⟩
    · simp only [base?, deref, named, Option.some.injEq] at base
      exact ⟨apart, base⟩
    · obtain ⟨inner, member, -⟩ := (@embeds_iff _ ⟨first.type, false⟩ _).mp step
      rw [nothing] at member
      cases member
  intro id round
  obtain ⟨_, first, -⟩ := Relation.TransGen.head'_iff.mp round
  obtain ⟨_, -, last⟩ := Relation.TransGen.tail'_iff.mp round
  exact (only first).1 (only last).2

theorem methodSet_of_missing {id : TypeId} (missing : decls.types[id]? = none) :
    decls.methodSet id = [] := by
  have noMethods : decls.ownMethods ⟨.plain id, false⟩ = [] := by
    simp [ownMethods, declaredMethods, isInterface, shape_of_missing missing,
      underlying_of_missing missing, Shape.invalid, Shape.isInterface]
  have noFields : decls.fieldKeys ⟨.plain id, false⟩ = [] := by
    simp [fieldKeys, underlying_of_missing missing, Shape.invalid]
  have noEmbeddings : decls.embeddings ⟨.plain id, false⟩ = [] := by
    simp [embeddings, underlying_of_missing missing, Shape.invalid]
  simp [methodSet, depthBound, collectMembers, unseen, noMethods, noFields, noEmbeddings, sortByKey]

end Fluent.Declarations
