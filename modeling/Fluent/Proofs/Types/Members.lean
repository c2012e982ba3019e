import Fluent.Proofs.Types.Receivers
import Mathlib.Data.List.Nodup

/-! Methods found by the names that they are declared with.

A type answers to the name of a method that is declared on it with this very method, since
nothing is closer to it. For an interface, the methods written in it come before those that it
takes over. -/

set_option autoImplicit false

namespace Fluent.Declarations

variable {decls : Declarations}

/-- The methods that a declared interface is written with. -/
def writtenIn (decls : Declarations) (id : NamedId) : List FuncId :=
  match decls.underlying (.plain id) with
  | .interface _ methods _ => methods
  | _ => []

/-- The methods declared on a type: with the type as their receiver, or written in an interface. -/
def declaredOn (decls : Declarations) (id : NamedId) : List FuncId :=
  match decls.named? id with
  | none => []
  | some decl => decl.methods ++ decls.writtenIn id

/-- What a type checker makes sure of where methods are declared: those of one type can be told
apart by their names, blank ones outside an interface left aside, and a declared pointer type has
none. -/
structure WellDeclared (decls : Declarations) : Prop where
  distinct : ∀ id < decls.types.size, ∀ decl ∈ decls.named? id,
    ((decl.methods.filter (fun func => decls.functionNamed func ≠ "_") ++ decls.writtenIn id).map
      decls.functionKey).Nodup
  pointers : ∀ id < decls.types.size, ∀ decl ∈ decls.named? id,
    (decls.underlying (.plain id)).isPointer = true → decl.methods = []

theorem lt_of_named? {id : NamedId} {decl : NamedDecl} (known : decls.named? id = some decl) :
    id < decls.types.size :=
  (Array.getElem?_eq_some_iff.mp (entry_of_named? known)).1

theorem args_resolveWithin (fuel : Nat) {type : Ty} (plain : type.args = []) :
    (decls.resolveWithin fuel type).args = [] := by
  have kept (type : Ty) (plain : type.args = []) : (decls.restrict type).args = [] := by
    simp [restrict, plain]
  induction fuel generalizing type with
  | zero => exact plain
  | succ fuel ih =>
    unfold resolveWithin
    split
    next elem _ => exact ih plain
    next => simp [plain, kept type plain]
    next => exact kept type plain

theorem shape_of_named? {id : NamedId} {decl : NamedDecl} (known : decls.named? id = some decl) :
    decls.shape (.plain id) = .named id [] := by
  have entry := entry_of_named? known
  have direct (elem : TypeId) : decls.types[id]? ≠ some (.alias elem) := by simp [entry]
  have itself : decls.resolve (.plain id) = .plain id := resolve_of_leads (.here direct)
  unfold shape
  simp only [itself]
  simp only [Ty.plain, entry]

theorem core_of_named? {id : NamedId} {decl : NamedDecl} (known : decls.named? id = some decl) :
    ∃ entry, decls.core (.plain id) = .plain entry := by
  have core : decls.core (.plain id) = decls.resolve (.plain decl.underlying) := by
    simp only [core, expand, shape_of_named? known, known, List.zip_nil_right]
    rfl
  have args : (decls.resolve (.plain decl.underlying)).args = [] := args_resolveWithin _ rfl
  rw [core]
  cases target : decls.resolve (.plain decl.underlying) with
  | mk entry rest =>
    rw [target] at args
    exact ⟨entry, congrArg (Ty.mk entry) args⟩

theorem underlying_of_named? {id : NamedId} {decl : NamedDecl} (known : decls.named? id = some decl) :
    decls.underlying (.plain id) = decls.shape (decls.core (.plain id)) := by
  simp [underlying, shape_of_named? known]

theorem nodup_distinctMethods (taken : List String) (methods : List Method) :
    ((decls.distinctMethods taken methods).map fun method => decls.functionKey method.func).Nodup ∧
      ∀ method ∈ decls.distinctMethods taken methods, decls.functionKey method.func ∉ taken := by
  induction methods generalizing taken with
  | nil => exact ⟨List.nodup_nil, List.forall_mem_nil _⟩
  | cons method methods ih =>
    unfold distinctMethods
    simp only
    split
    next => exact ih taken
    next fresh =>
      obtain ⟨nodup, apart⟩ := ih (decls.functionKey method.func :: taken)
      constructor
      · rw [List.map_cons, List.nodup_cons]
        refine ⟨fun repeated => ?_, nodup⟩
        obtain ⟨other, member, same⟩ := List.mem_map.mp repeated
        exact apart other member (same ▸ List.mem_cons_self)
      · refine List.forall_mem_cons.mpr ⟨by simpa using fresh, fun other member => ?_⟩
        exact fun known => apart other member (List.mem_cons_of_mem _ known)

/-- Methods that can be told apart all stay, before those that are added to them. -/
theorem isPrefix_distinctMethods {taken : List String} {methods : List Method}
    (nodup : (methods.map fun method => decls.functionKey method.func).Nodup)
    (apart : ∀ method ∈ methods, decls.functionKey method.func ∉ taken) (others : List Method) :
    methods <+: decls.distinctMethods taken (methods ++ others) := by
  induction methods generalizing taken with
  | nil => exact List.nil_prefix
  | cons method methods ih =>
    obtain ⟨fresh, nodup⟩ := List.nodup_cons.mp nodup
    obtain ⟨here, later⟩ := List.forall_mem_cons.mp apart
    rw [List.cons_append, distinctMethods]
    simp only [List.contains_iff_mem, here, if_false]
    refine List.cons_prefix_cons.mpr ⟨rfl, ih nodup fun other member => ?_⟩
    rw [List.mem_cons, not_or]
    refine ⟨fun same => fresh ?_, later other member⟩
    exact List.mem_map.mpr ⟨other, member, same⟩

theorem interface_of_mem_writtenIn {id : NamedId} {func : FuncId} (written : func ∈ decls.writtenIn id) :
    ∃ comparable embeds,
      decls.underlying (.plain id) = .interface comparable (decls.writtenIn id) embeds := by
  unfold writtenIn at written ⊢
  split at written
  next comparable methods embeds form => exact ⟨comparable, embeds, form⟩
  next => cases written

/-- The methods written in an interface come first in its type set. -/
theorem isPrefix_interfaceMethods {id : NamedId} {decl : NamedDecl} (known : decls.named? id = some decl)
    {comparable : Bool} {methods : List FuncId} {embeds : List Ty}
    (form : decls.underlying (.plain id) = .interface comparable methods embeds)
    (distinct : (methods.map decls.functionKey).Nodup) :
    methods.map Method.plain <+: decls.interfaceMethods (.plain id) := by
  obtain ⟨entry, core⟩ := core_of_named? known
  rw [underlying_of_named? known, core] at form
  have unknown (type : Ty) : decls.knownSet? [] type = none := rfl
  have same : (Ty.plain entry).same (.plain entry) = true := by simp [Ty.plain, Ty.same, Ty.sameArgs]
  have head (set : TypeSet) (rest : KnownSets) :
      decls.knownSet? ((Ty.plain entry, set) :: rest) (.plain id) = some set := by
    simp [knownSet?, core, same]
  have keys : ((methods.map Method.plain).map fun method => decls.functionKey method.func) =
      methods.map decls.functionKey := by
    rw [List.map_map]
    rfl
  unfold interfaceMethods typeSet typeSetWith
  simp only
  rw [depthBound, learn]
  simp only [core, unknown, form, head, Option.getD_some]
  -- Each embedded type adds its methods behind those that are there.
  refine (List.foldlRecOn (motive := fun set : TypeSet => methods.map Method.plain <+: set.methods ∧
    (set.methods.map fun method => decls.functionKey method.func).Nodup) _ _ ⟨?_, ?_⟩
    fun set kept embed _ => ?_).1
  · have all := @isPrefix_distinctMethods decls [] _ (by rw [keys]; exact distinct) (by simp) []
    rwa [List.append_nil] at all
  · exact (nodup_distinctMethods [] _).1
  · rw [methods_meet]
    exact ⟨kept.1.trans (isPrefix_distinctMethods kept.2 (by simp) _), (nodup_distinctMethods [] _).1⟩

/-- Does a method answer to the name of a function, used in the package of the function? -/
def answersFor (decls : Declarations) (func : FuncId) (method : Method) : Bool :=
  decls.answersTo (decls.functionPackage method.func) (decls.functionNamed method.func)
    (decls.functionPackage func) (decls.functionNamed func)

theorem answersFor_self (func : FuncId) : decls.answersFor func (.plain func) = true := by
  cases owner : decls.functionPackage func <;>
    simp [answersFor, answersTo, samePackage, Method.plain, owner]

theorem name_and_key_of_answersFor {func : FuncId} {method : Method}
    (answers : decls.answersFor func method = true) :
    decls.functionNamed method.func = decls.functionNamed func ∧
      decls.functionKey method.func = decls.functionKey func := by
  simp only [answersFor, answersTo, Bool.and_eq_true, decide_eq_true_eq, Bool.or_eq_true] at answers
  obtain ⟨name, visible⟩ := answers
  refine ⟨name, ?_⟩
  unfold functionKey memberKey
  rw [name] at visible ⊢
  split
  next => rfl
  next hidden =>
    have same := visible.resolve_left hidden
    unfold samePackage at same
    split at same
    next none other => rw [none, other]
    next here there => simp_all
    next => cases same

theorem mem_declaredMethods_iff {id : NamedId} {decl : NamedDecl} (known : decls.named? id = some decl)
    {method : Method} :
    method ∈ decls.declaredMethods (.plain id) ↔
      ∃ func ∈ decl.methods, (decls.functions[func]?).isSome = true ∧ method = .plain func := by
  have plain (func : FuncId) :
      decls.methodAt [] func = (decls.functions[func]?).map fun _ => .plain func := by
    simp [methodAt, Method.plain]
  simp only [declaredMethods, shape_of_named? known, known, List.mem_filterMap, plain,
    Option.map_eq_some_iff, Option.isSome_iff_exists]
  constructor
  · rintro ⟨func, member, function, present, rfl⟩
    exact ⟨func, member, ⟨function, present⟩, rfl⟩
  · rintro ⟨func, member, ⟨function, present⟩, rfl⟩
    exact ⟨func, member, function, present, rfl⟩

theorem find?_eq_some_of_unique {α : Type} {list : List α} {holds : α → Bool} {item : α}
    (member : item ∈ list) (here : holds item = true)
    (unique : ∀ other ∈ list, holds other = true → other = item) : list.find? holds = some item := by
  cases found : list.find? holds with
  | none => exact absurd here (List.find?_eq_none.mp found item member)
  | some other =>
    rw [unique other (List.mem_of_find?_eq_some found) (List.find?_some found)]

section DeclaredOn

variable {id : NamedId} {decl : NamedDecl} {func : FuncId}
  (wellDeclared : decls.WellDeclared) (known : decls.named? id = some decl)
include wellDeclared known

/-- The methods of a type that have names, in the two ways to declare them. -/
theorem WellDeclared.keys :
    ((decl.methods.filter fun func => decls.functionNamed func ≠ "_").map decls.functionKey).Nodup ∧
      ((decls.writtenIn id).map decls.functionKey).Nodup ∧
      ∀ own ∈ decl.methods, decls.functionNamed own ≠ "_" → ∀ written ∈ decls.writtenIn id,
        decls.functionKey own ≠ decls.functionKey written := by
  have distinct := wellDeclared.distinct id (lt_of_named? known) decl known
  rw [List.map_append, List.nodup_append] at distinct
  refine ⟨distinct.1, distinct.2.1, fun own listed named written member => ?_⟩
  have kept : own ∈ decl.methods.filter fun func => decls.functionNamed func ≠ "_" :=
    List.mem_filter.mpr ⟨listed, by simpa using named⟩
  exact distinct.2.2 _ (List.mem_map_of_mem kept) _ (List.mem_map_of_mem member)

theorem find?_declaredMethods_own (present : (decls.functions[func]?).isSome = true)
    (named : decls.functionNamed func ≠ "_") (own : func ∈ decl.methods) :
    (decls.declaredMethods (.plain id)).find? (decls.answersFor func) = some (.plain func) := by
  apply find?_eq_some_of_unique _ (answersFor_self func)
  · intro method member answers
    obtain ⟨other, listed, -, rfl⟩ := (mem_declaredMethods_iff known).mp member
    obtain ⟨name, key⟩ := name_and_key_of_answersFor answers
    have otherNamed : decls.functionNamed other ≠ "_" := fun blank => named (name.symm.trans blank)
    rw [List.inj_on_of_nodup_map (wellDeclared.keys known).1
      (List.mem_filter.mpr ⟨listed, by simpa using otherNamed⟩)
      (List.mem_filter.mpr ⟨own, by simpa using named⟩) key]
  · exact (mem_declaredMethods_iff known).mpr ⟨func, own, present, rfl⟩

theorem find?_declaredMethods_written (named : decls.functionNamed func ≠ "_")
    (written : func ∈ decls.writtenIn id) :
    (decls.declaredMethods (.plain id)).find? (decls.answersFor func) = none := by
  rw [List.find?_eq_none]
  intro method member answers
  obtain ⟨other, listed, -, rfl⟩ := (mem_declaredMethods_iff known).mp member
  obtain ⟨name, key⟩ := name_and_key_of_answersFor answers
  have otherNamed : decls.functionNamed other ≠ "_" := fun blank => named (name.symm.trans blank)
  exact (wellDeclared.keys known).2.2 other listed otherNamed func written key

theorem find?_interfaceMethods (written : func ∈ decls.writtenIn id) :
    (decls.interfaceMethods (.plain id)).find? (decls.answersFor func) = some (.plain func) := by
  obtain ⟨comparable, embeds, form⟩ := interface_of_mem_writtenIn written
  have distinct := (wellDeclared.keys known).2.1
  obtain ⟨rest, same⟩ := isPrefix_interfaceMethods known form distinct
  have found : ((decls.writtenIn id).map Method.plain).find? (decls.answersFor func) =
      some (.plain func) := by
    apply find?_eq_some_of_unique (List.mem_map_of_mem written) (answersFor_self func)
    intro method member answers
    obtain ⟨other, listed, rfl⟩ := List.mem_map.mp member
    rw [List.inj_on_of_nodup_map distinct listed written (name_and_key_of_answersFor answers).2]
  rw [← same, List.find?_append, found]
  rfl

/-- The method of a type itself that answers to the name of a method declared on it is that method. -/
theorem ownMember?_of_declaredOn (present : (decls.functions[func]?).isSome = true)
    (named : decls.functionNamed func ≠ "_") (declared : func ∈ decl.methods ++ decls.writtenIn id) :
    decls.ownMember? (decls.functionPackage func) (decls.functionNamed func) (.plain id) =
      some (.method (.plain func)) := by
  unfold ownMember?
  rcases List.mem_append.mp declared with own | written
  · have found := find?_declaredMethods_own wellDeclared known present named own
    unfold answersFor at found
    simp only [found]
  · obtain ⟨comparable, embeds, form⟩ := interface_of_mem_writtenIn written
    have none := find?_declaredMethods_written wellDeclared known named written
    have found := find?_interfaceMethods wellDeclared known written
    unfold answersFor at none found
    simp only [none, form, found, Option.map_some]

end DeclaredOn

/-- A declared type answers to the name of a method declared on it with that method. -/
theorem method?_of_declaredOn (wellDeclared : decls.WellDeclared) {id : NamedId} {func : FuncId}
    (present : (decls.functions[func]?).isSome = true) (declared : func ∈ decls.declaredOn id)
    (named : decls.functionNamed func ≠ "_") :
    decls.method? (.plain id) (decls.functionPackage func) (decls.functionNamed func) =
      some (.plain func) := by
  cases known : decls.named? id with
  | none => simp [declaredOn, known] at declared
  | some decl =>
    simp only [declaredOn, known] at declared
    have own := ownMember?_of_declaredOn wellDeclared known present named declared
    have noPointer : (decls.underlying (.plain id)).isPointer = false := by
      by_contra pointer
      rw [Bool.not_eq_false] at pointer
      have bare := wellDeclared.pointers id (lt_of_named? known) decl known pointer
      rw [bare, List.nil_append] at declared
      obtain ⟨comparable, embeds, form⟩ := interface_of_mem_writtenIn declared
      rw [form] at pointer
      cases pointer
    have itself : decls.deref (.plain id) = .plain id := by simp [deref, shape_of_named? known]
    have direct : (decls.shape (.plain id)).isPointer = false := by
      rw [shape_of_named? known]
      rfl
    simp only [method?, member?, memberOf?, itself, direct, noPointer, Bool.and_false, Bool.false_eq_true,
      if_false, Bool.false_and, Bool.or_false, decide_eq_true_eq, named]
    simp [depthBound, searchMember, unseen, own]

end Fluent.Declarations
