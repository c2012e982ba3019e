import Fluent.Proofs.Types.Embedding
import Mathlib.Data.Fintype.Card

/-! The declared types behind receivers.

A method is written for a declared type or for a pointer to it. The type can have type arguments,
and it can go by second names, which are followed as far as they lead. None of this shows in the
base of the receiver. -/

set_option autoImplicit false

namespace Fluent.Declarations

variable {decls : Declarations} {entry target : TypeId} {steps : Nat}

/-- A number of aliases leads from an entry to one that is no alias. -/
inductive Leads (decls : Declarations) (target : TypeId) : Nat → TypeId → Prop where
  | here (direct : ∀ elem, decls.types[target]? ≠ some (.alias elem)) : Leads decls target 0 target
  | further {steps : Nat} {entry elem : TypeId} (second : decls.types[entry]? = some (.alias elem))
      (leads : Leads decls target steps elem) : Leads decls target (steps + 1) entry

theorem Leads.unique {others : Nat} (leads : decls.Leads target steps entry)
    (again : decls.Leads target others entry) : steps = others := by
  induction leads generalizing others with
  | here direct =>
    cases again with
    | here _ => rfl
    | further second _ => exact (direct _ second).elim
  | further second _ ih =>
    cases again with
    | here direct => exact (direct _ second).elim
    | further same again =>
      cases second.symm.trans same
      rw [ih again]

theorem Leads.exists_between (leads : decls.Leads target steps entry) :
    ∀ count < steps, ∃ between < decls.types.size, decls.Leads target (count + 1) between := by
  induction leads with
  | here _ => exact fun _ none => absurd none (Nat.not_lt_zero _)
  | @further steps entry elem second leads ih =>
    intro count fewer
    by_cases first : count = steps
    · subst first
      exact ⟨entry, (Array.getElem?_eq_some_iff.mp second).1, .further second leads⟩
    · exact ih count (by omega)

theorem Leads.direct (leads : decls.Leads target steps entry) (elem : TypeId) :
    decls.types[target]? ≠ some (.alias elem) := by
  induction leads with
  | here direct => exact direct elem
  | further _ _ ih => exact ih

/-- Aliases that lead somewhere are different entries, so that there are enough of them. -/
theorem Leads.steps_le (leads : decls.Leads target steps entry) : steps ≤ decls.types.size := by
  have between (count : Fin steps) :
      ∃ place : Fin decls.types.size, decls.Leads target (count + 1) place := by
    obtain ⟨place, within, rest⟩ := leads.exists_between count count.isLt
    exact ⟨⟨place, within⟩, rest⟩
  choose place rest using between
  have injective : Function.Injective place := by
    intro first second same
    have left := rest first
    rw [same] at left
    have counts := left.unique (rest second)
    exact Fin.ext (by omega)
  simpa using Fintype.card_le_of_injective place injective

theorem resolveWithin_of_leads (leads : decls.Leads target steps entry) {fuel : Nat}
    (enough : steps < fuel) (args : Substitution) :
    decls.resolveWithin fuel ⟨entry, args⟩ = decls.resolveWithin 1 ⟨target, args⟩ := by
  induction leads generalizing fuel with
  | here direct =>
    obtain ⟨fuel, rfl⟩ := Nat.exists_eq_succ_of_ne_zero (Nat.ne_of_gt enough)
    unfold resolveWithin
    split
    next elem second => exact (direct elem second).elim
    next => rfl
    next => rfl
  | further second _ ih =>
    obtain ⟨fuel, rfl⟩ := Nat.exists_eq_succ_of_ne_zero (Nat.ne_of_gt (Nat.zero_lt_of_lt enough))
    rw [resolveWithin, second]
    exact ih (Nat.lt_of_succ_lt_succ enough)

theorem resolve_eq_of_leads (leads : decls.Leads target steps entry) (args : Substitution) :
    decls.resolve ⟨entry, args⟩ = decls.resolveWithin 1 ⟨target, args⟩ :=
  resolveWithin_of_leads leads (Nat.lt_succ_of_le leads.steps_le) args

theorem resolve_of_leads (leads : decls.Leads target steps entry) :
    decls.resolve (.plain entry) = .plain target := by
  rw [Ty.plain, resolve_eq_of_leads leads]
  unfold resolveWithin
  split
  next elem second => exact (leads.direct elem second).elim
  next => rfl
  next => rfl

/-- Does an entry name a declared type, by itself or with type arguments? -/
inductive Names (decls : Declarations) (id : NamedId) (entry : TypeId) : Prop where
  | declared {steps : Nat} {decl : NamedDecl} (leads : decls.Leads id steps entry)
      (known : decls.types[id]? = some (.declared decl))
  | instantiated {steps : Nat} {target : TypeId} {args : List TypeId}
      (leads : decls.Leads target steps entry)
      (known : decls.types[target]? = some (.instantiated id args))

/-- Is an entry a receiver for the methods of a declared type? -/
inductive ReceiverOf (decls : Declarations) (id : NamedId) (entry : TypeId) : Prop where
  | value (names : decls.Names id entry)
  | pointer {steps : Nat} {target elem : TypeId} (leads : decls.Leads target steps entry)
      (known : decls.types[target]? = some (.literal (.pointer elem))) (names : decls.Names id elem)

theorem Names.shape_eq {id : NamedId} (names : decls.Names id entry) :
    ∃ args, decls.shape (.plain entry) = .named id args := by
  cases names with
  | declared leads known =>
    refine ⟨[], ?_⟩
    simp only [shape, resolve_of_leads leads]
    simp only [Ty.plain, known]
  | @instantiated _ _ args leads known =>
    refine ⟨args.map fun arg => decls.resolve (.plain arg), ?_⟩
    simp only [shape, resolve_of_leads leads]
    simp only [Ty.plain, known]

theorem shape_of_pointer {elem : TypeId} (leads : decls.Leads target steps entry)
    (known : decls.types[target]? = some (.literal (.pointer elem))) :
    decls.shape (.plain entry) = .pointer (.plain elem) := by
  simp only [shape, resolve_of_leads leads]
  simp only [Ty.plain, known, Shape.onParts]

theorem ReceiverOf.base?_eq {id : NamedId} (receiver : decls.ReceiverOf id entry) :
    decls.base? (.plain entry) = some id := by
  cases receiver with
  | value names =>
    obtain ⟨args, shape⟩ := names.shape_eq
    simp only [base?, deref, shape]
  | pointer leads known names =>
    obtain ⟨args, shape⟩ := names.shape_eq
    simp only [base?, deref, shape_of_pointer leads known, shape]

end Fluent.Declarations
