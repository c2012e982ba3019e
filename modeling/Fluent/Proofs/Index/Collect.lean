import Fluent.Index.Collect
import Mathlib.Data.List.Basic

/-! What is wrong with directives by themselves is not mistaken for an entry point that leads
nowhere, also by the text of its message: it begins or ends in another way. -/

set_option autoImplicit false

namespace Fluent

/-- Is a problem found while directives are collected? -/
def Problem.OfDirective : Problem → Prop
  | .unreachableTerminal _ => False
  | _ => True

/-- Texts differ if neither of their beginnings goes on as the other. -/
theorem append_ne_of_beginnings {first second : String} (forth : ¬ first.toList <+: second.toList)
    (back : ¬ second.toList <+: first.toList) (rest others : String) : first ++ rest ≠ second ++ others := by
  intro same
  have texts := congrArg String.toList same
  rw [String.toList_append, String.toList_append] at texts
  exact (List.prefix_or_prefix_of_prefix ⟨rest.toList, texts⟩ (List.prefix_append _ _)).elim forth back

/-- Texts differ if neither of their ends is an end of the other. -/
theorem append_ne_of_ends {first second : String} (forth : ¬ first.toList <:+ second.toList)
    (back : ¬ second.toList <:+ first.toList) (start other : String) : start ++ first ≠ other ++ second := by
  intro same
  have texts := congrArg String.toList same
  rw [String.toList_append, String.toList_append] at texts
  exact (List.suffix_or_suffix_of_suffix ⟨start.toList, texts⟩ (List.suffix_append _ _)).elim forth back

/-- No message about a directive by itself begins as those about entry points do. -/
theorem DirectiveError.message_ne (error : DirectiveError) (rest : String) :
    error.message ≠ "entry point " ++ rest := by
  cases error with
  | takesNoArguments kind =>
    -- Unfolding the message instead would compare the texts letter by letter.
    change "endcheck:" ++ kind.label ++ " takes no arguments" ≠ _
    rw [String.append_assoc]
    exact append_ne_of_beginnings (by decide) (by decide) _ _
  | malformedMessage =>
    have differs := append_ne_of_beginnings
      (by decide : ¬ "malformed endcheck:start message: invalid syntax".toList <+: "entry point ".toList)
      (by decide) "" rest
    rwa [String.append_empty] at differs
  | unknownVerb verb =>
    change "unknown directive endcheck:" ++ String.ofList verb ≠ _
    exact append_ne_of_beginnings (by decide) (by decide) _ _

/-- No message about a directive is that about an entry point which leads nowhere. -/
theorem Problem.OfDirective.message_ne {problem : Problem} (ofDirective : problem.OfDirective)
    (function : String) : problem.message ≠ (Problem.unreachableTerminal function).message := by
  change problem.message ≠ "entry point " ++ function ++ " never reaches a terminal method"
  cases problem with
  | directive error =>
    rw [String.append_assoc]
    exact error.message_ne _
  | conflicting first later name =>
    change "conflicting directives endcheck:" ++ first.label ++ " and endcheck:" ++ later.label ++
      " on " ++ name ≠ _
    simp only [String.append_assoc]
    exact append_ne_of_beginnings (by decide) (by decide) _ _
  | terminalFunction name =>
    change "endcheck:end on function " ++ name ++ ", terminals must be methods" ≠ _
    simp only [String.append_assoc]
    exact append_ne_of_beginnings (by decide) (by decide) _ _
  | entryWithoutResult name =>
    change "entry point " ++ name ++ " has no result" ≠ _
    exact append_ne_of_ends (by decide) (by decide) _ _
  | unreachableTerminal name => exact ofDirective.elim

def AllOfDirectives (declarations : List Declaration) : Prop :=
  ∀ declaration ∈ declarations, ∃ problem : Problem,
    problem.OfDirective ∧ declaration.message = problem.message

theorem AllOfDirectives.append {first second : List Declaration} (left : AllOfDirectives first)
    (right : AllOfDirectives second) : AllOfDirectives (first ++ second) :=
  List.forall_mem_append.mpr ⟨left, right⟩

theorem Declared.badDirectives_ofDirectives (declared : Declared) :
    AllOfDirectives declared.badDirectives := by
  intro declaration member
  obtain ⟨⟨comment, error⟩, -, rfl⟩ := List.mem_map.mp member
  exact ⟨.directive error, trivial, rfl⟩

theorem Declared.conflicts_ofDirectives (declared : Declared) (name : String) (first : Marker)
    (others : List (Nat × Marker)) : AllOfDirectives (declared.conflicts name first others) := by
  intro declaration member
  obtain ⟨⟨start, other⟩, -, rfl⟩ := List.mem_map.mp member
  exact ⟨.conflicting first.kind other.kind name, trivial, rfl⟩

theorem Declarations.refusal?_ofDirective {decls : Declarations} {func : FuncId} {function : Function}
    {kind : MarkerKind} {problem : Problem} (refused : decls.refusal? func function kind = some problem) :
    problem.OfDirective := by
  unfold refusal? at refused
  split at refused
  · split at refused
    · cases refused
      trivial
    · cases refused
  · split at refused
    · cases refused
      trivial
    · cases refused
  · cases refused

theorem Collected.add_ofDirectives (decls : Declarations) {collected : Collected}
    (before : AllOfDirectives collected.problems) (declared : Declared) :
    AllOfDirectives (collected.add decls declared).problems := by
  have bad := before.append declared.badDirectives_ofDirectives
  unfold add
  simp only
  split
  next start first others func function _ _ =>
    have further := bad.append (declared.conflicts_ofDirectives function.name first others)
    split
    next problem refused =>
      refine further.append fun declaration member => ?_
      rw [List.mem_singleton.mp member]
      exact ⟨problem, Declarations.refusal?_ofDirective refused, rfl⟩
    next => exact further
  next => exact bad

theorem Package.collect_ofDirectives (package : Package) (decls : Declarations) :
    AllOfDirectives (package.collect decls).problems := by
  have nothing : AllOfDirectives [] := fun _ member => nomatch member
  exact List.foldlRecOn (motive := fun collected : Collected => AllOfDirectives collected.problems)
    _ _ nothing fun _ before declared _ => Collected.add_ofDirectives decls before declared

end Fluent
