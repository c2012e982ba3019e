import Fluent.Proofs.Index.Terminal

/-! Which examinations leave only right notes.

While a method is under examination the memo denies that it is terminal. A method below it
that needs it is then noted as not terminal, and keeps the note even if the method above
turns out to be terminal on other grounds. An examination settles if this does not happen:
on its way from method to redeclared method it comes to a ground that does not go back to a
method under examination. -/

set_option autoImplicit false

namespace Fluent.TerminalRules

variable {rules : TerminalRules} {memo current : Memo} {under : List FuncId} {func : FuncId}

/-- Does a redeclared method count in favour of the methods under examination? -/
def Counts (rules : TerminalRules) (memo : Memo) (under : List FuncId) (func : FuncId) : Prop :=
  rules.Terminal memo func ∧ func ∉ under

/-- A terminal method whose examination, below others, notes nothing wrong. -/
inductive Settles (rules : TerminalRules) (memo : Memo) : List FuncId → FuncId → Prop where
  | known {under : List FuncId} {func : FuncId} : memo.lookup func = some true →
      Settles rules memo under func
  | marked {under : List FuncId} {func : FuncId} : (rules.markers.of func).kind = .terminal →
      Settles rules memo under func
  /-- The first redeclared method that counts settles. -/
  | redeclares {under before after : List FuncId} {func other : FuncId} :
      rules.redeclared func = before ++ other :: after →
      (∀ skipped ∈ before, ¬ rules.Counts memo (func :: under) skipped) →
      rules.Counts memo (func :: under) other → Settles rules memo (func :: under) other →
      Settles rules memo under func
  | implements {under : List FuncId} {func : FuncId} :
      (∀ skipped ∈ rules.redeclared func, ¬ rules.Counts memo (func :: under) skipped) →
      rules.implementsTerminal func = true → Settles rules memo under func

/-- A memo in the course of an examination that has noted nothing but denials. -/
structure Clean (rules : TerminalRules) (memo : Memo) (under : List FuncId) (current : Memo) : Prop where
  extended : current.Extends memo
  pending : ∀ func ∈ under, current.lookup func = some false
  others : ∀ func given, func ∉ under → current.lookup func = some given →
    memo.lookup func = some given ∨ given = false ∧ ¬ rules.Terminal memo func

/-- A memo that is right about all methods that are not under examination. -/
structure Faithful (rules : TerminalRules) (memo : Memo) (under : List FuncId) (current : Memo) :
    Prop where
  extended : current.Extends memo
  pending : ∀ func ∈ under, current.lookup func = some false
  others : ∀ func given, func ∉ under → current.lookup func = some given →
    (given = true ↔ rules.Terminal memo func)

theorem Clean.refl (rules : TerminalRules) (memo : Memo) : rules.Clean memo [] memo :=
  ⟨Memo.Extends.refl memo, fun _ member => (nomatch member), fun _ _ _ known => Or.inl known⟩

theorem Clean.faithful (clean : rules.Clean memo under current) : rules.Faithful memo under current := by
  refine ⟨clean.extended, clean.pending, fun func given free known => ?_⟩
  rcases clean.others func given free known with before | ⟨rfl, no⟩
  · exact (Terminal.of_known before).symm
  · simp [no]

theorem Clean.unknown (clean : rules.Clean memo under current) (unknown : current.lookup func = none) :
    memo.lookup func = none :=
  Memo.unknown_of_extends clean.extended unknown

theorem Clean.begin (clean : rules.Clean memo under current) (unknown : current.lookup func = none) :
    rules.Clean memo (func :: under) ((func, false) :: current) := by
  refine ⟨Memo.extends_note false (clean.unknown unknown) clean.extended, ?_, ?_⟩
  · intro other member
    by_cases same : other = func
    · rw [same, Memo.lookup_note]
    · rw [Memo.lookup_note_ne current false same]
      rcases List.mem_cons.mp member with itself | member
      · exact (same itself).elim
      · exact clean.pending other member
  · intro other given free known
    have ne : other ≠ func := fun same => free (same ▸ List.mem_cons_self)
    rw [Memo.lookup_note_ne current false ne] at known
    exact clean.others other given (fun member => free (List.mem_cons_of_mem _ member)) known

theorem Clean.deny (clean : rules.Clean memo under current) (unknown : memo.lookup func = none)
    (free : func ∉ under) (absent : ¬ rules.Terminal memo func) :
    rules.Clean memo under ((func, false) :: current) := by
  refine ⟨Memo.extends_note false unknown clean.extended, ?_, ?_⟩
  · intro other member
    have ne : other ≠ func := fun same => free (same ▸ member)
    rw [Memo.lookup_note_ne current false ne]
    exact clean.pending other member
  · intro other given outside known
    by_cases same : other = func
    · subst same
      rw [Memo.lookup_note] at known
      exact Or.inr ⟨(Option.some.inj known).symm, absent⟩
    · rw [Memo.lookup_note_ne current false same] at known
      exact clean.others other given outside known

theorem anyAnswer_clean {answer : FuncId → Memo → Bool × Memo}
    (quiet : ∀ func current, ¬ rules.Counts memo under func → rules.Clean memo under current →
      ∃ next, answer func current = (false, next) ∧ rules.Clean memo under next)
    (extended : ∀ func current, Memo.Extends (answer func current).2 current) {funcs : List FuncId}
    (none : ∀ func ∈ funcs, ¬ rules.Counts memo under func) (clean : rules.Clean memo under current)
    (rest : List FuncId) :
    ∃ next, anyAnswer answer (funcs ++ rest) current = anyAnswer answer rest next ∧
      rules.Clean memo under next ∧ next.Extends current := by
  induction funcs generalizing current with
  | nil => exact ⟨current, rfl, clean, Memo.Extends.refl current⟩
  | cons func funcs ih =>
    obtain ⟨first, others⟩ := List.forall_mem_cons.mp none
    obtain ⟨next, result, clean⟩ := quiet func current first clean
    obtain ⟨last, same, clean, later⟩ := ih others clean
    have further := extended func current
    rw [result] at further
    exact ⟨last, by simp only [List.cons_append, anyAnswer, result, same], clean, later.trans further⟩

/-- The examination of a method that does not count notes only denials. -/
theorem examine_clean (fuel : Nat) (silent : ¬ rules.Counts memo under func)
    (clean : rules.Clean memo under current) :
    ∃ next, rules.examine fuel func current = (false, next) ∧ rules.Clean memo under next := by
  induction fuel generalizing func current with
  | zero => exact ⟨current, rfl, clean⟩
  | succ fuel ih =>
    by_cases member : func ∈ under
    · exact ⟨current, rules.examine_known (clean.pending func member), clean⟩
    have absent : ¬ rules.Terminal memo func := fun terminal => silent ⟨terminal, member⟩
    cases known : current.lookup func with
    | some given =>
      have no : given = false := by
        rcases clean.others func given member known with before | ⟨no, _⟩
        · rw [Terminal.of_known before] at absent
          simpa using absent
        · exact no
      subst no
      exact ⟨current, rules.examine_known known, clean⟩
    | none =>
      have unknown := clean.unknown known
      rw [Terminal.of_unknown unknown] at absent
      have unmarked : (rules.markers.of func).kind ≠ .terminal := fun marked => absent (Or.inl marked)
      -- A method that is not terminal redeclares none that counts.
      have below : ∀ other ∈ rules.redeclared func, ¬ rules.Counts memo under other :=
        fun other redeclared counts => absent (Or.inr (Or.inl ⟨other, redeclared, counts.1⟩))
      have unimplemented : rules.implementsTerminal func = false := by
        simpa using fun found => absent (Or.inr (Or.inr found))
      rw [← Terminal.of_unknown unknown] at absent
      obtain ⟨next, asked, clean, -⟩ := anyAnswer_clean (fun _ _ silent clean => ih silent clean)
        (rules.examine_extends fuel) below (clean.deny unknown member absent) []
      rw [List.append_nil] at asked
      refine ⟨(func, false) :: next, ?_, clean.deny unknown member absent⟩
      have result : rules.consult fuel func ((func, false) :: current) = (false, next) := by
        simp only [consult, unmarked, if_false, asked, anyAnswer, unimplemented]
      rw [rules.examine_unknown known, result]

theorem counts_cases (rules : TerminalRules) (memo : Memo) (under funcs : List FuncId) :
    (∀ func ∈ funcs, ¬ rules.Counts memo under func) ∨
      ∃ before other after, funcs = before ++ other :: after ∧
        (∀ skipped ∈ before, ¬ rules.Counts memo under skipped) ∧ rules.Counts memo under other := by
  induction funcs with
  | nil => exact Or.inl fun _ member => (nomatch member)
  | cons func funcs ih =>
    by_cases counts : rules.Counts memo under func
    · exact Or.inr ⟨[], func, funcs, rfl, fun _ member => (nomatch member), counts⟩
    · rcases ih with none | ⟨before, other, after, rfl, skipped, counting⟩
      · exact Or.inl (List.forall_mem_cons.mpr ⟨counts, none⟩)
      · exact Or.inr ⟨func :: before, other, after, rfl, List.forall_mem_cons.mpr ⟨counts, skipped⟩,
          counting⟩

theorem first_counting_unique {before before' after after' : List FuncId} {other other' : FuncId}
    (same : before ++ other :: after = before' ++ other' :: after')
    (skipped : ∀ func ∈ before, ¬ rules.Counts memo under func) (counts : rules.Counts memo under other)
    (skipped' : ∀ func ∈ before', ¬ rules.Counts memo under func)
    (counts' : rules.Counts memo under other') : other = other' := by
  induction before generalizing before' with
  | nil =>
    cases before' with
    | nil => exact (List.cons.inj same).1
    | cons func before' =>
      obtain ⟨rfl, -⟩ := List.cons.inj same
      exact (skipped' other List.mem_cons_self counts).elim
  | cons func before ih =>
    cases before' with
    | nil =>
      obtain ⟨rfl, -⟩ := List.cons.inj same
      exact (skipped func List.mem_cons_self counts').elim
    | cons func' before' =>
      obtain ⟨rfl, rest⟩ := List.cons.inj same
      exact ih rest (fun func member => skipped func (List.mem_cons_of_mem _ member))
        fun func member => skipped' func (List.mem_cons_of_mem _ member)

theorem Faithful.affirm (faithful : rules.Faithful memo (func :: under) current) (free : func ∉ under)
    (terminal : rules.Terminal memo func) (unknown : memo.lookup func = none) :
    rules.Faithful memo under ((func, true) :: current) := by
  refine ⟨Memo.extends_note true unknown faithful.extended, ?_, ?_⟩
  · intro other member
    have ne : other ≠ func := fun same => free (same ▸ member)
    rw [Memo.lookup_note_ne current true ne]
    exact faithful.pending other (List.mem_cons_of_mem _ member)
  · intro other given outside known
    by_cases same : other = func
    · subst same
      rw [Memo.lookup_note] at known
      exact iff_of_true (Option.some.inj known).symm terminal
    · rw [Memo.lookup_note_ne current true same] at known
      refine faithful.others other given (fun member => ?_) known
      rcases List.mem_cons.mp member with itself | member
      · exact same itself
      · exact outside member

/-- Before the end of an examination is noted, its method is still denied. -/
theorem Faithful.before {answer : Bool} (faithful : rules.Faithful memo under ((func, answer) :: current))
    (extended : current.Extends memo) (denied : current.lookup func = some false) (free : func ∉ under) :
    rules.Faithful memo (func :: under) current := by
  have kept {other : FuncId} (ne : other ≠ func) :=
    Memo.lookup_note_ne current answer ne
  refine ⟨extended, ?_, ?_⟩
  · refine List.forall_mem_cons.mpr ⟨denied, fun other member => ?_⟩
    rw [← kept fun same => free (same ▸ member)]
    exact faithful.pending other member
  · intro other given outside known
    rw [← kept fun same => outside (same ▸ List.mem_cons_self)] at known
    exact faithful.others other given (fun member => outside (List.mem_cons_of_mem _ member)) known

/-- Where nothing counts, a method settles as far as it implements a terminal one. -/
theorem settles_iff_implements (unknown : memo.lookup func = none)
    (unmarked : (rules.markers.of func).kind ≠ .terminal)
    (none : ∀ other ∈ rules.redeclared func, ¬ rules.Counts memo (func :: under) other) :
    rules.Settles memo under func ↔ rules.implementsTerminal func = true := by
  constructor
  · intro settles
    cases settles with
    | known yes =>
      rw [unknown] at yes
      cases yes
    | marked mark => exact (unmarked mark).elim
    | redeclares redeclared _ counts _ => exact (none _ (by rw [redeclared]; simp) counts).elim
    | implements _ found => exact found
  · exact .implements none

/-- Otherwise the first redeclared method that counts decides. -/
theorem settles_iff_first {before after : List FuncId} {other : FuncId}
    (unknown : memo.lookup func = none) (unmarked : (rules.markers.of func).kind ≠ .terminal)
    (redeclared : rules.redeclared func = before ++ other :: after)
    (skipped : ∀ skipped ∈ before, ¬ rules.Counts memo (func :: under) skipped)
    (counts : rules.Counts memo (func :: under) other) :
    rules.Settles memo under func ↔ rules.Settles memo (func :: under) other := by
  refine ⟨fun settles => ?_, .redeclares redeclared skipped counts⟩
  cases settles with
  | known yes =>
    rw [unknown] at yes
    cases yes
  | marked mark => exact (unmarked mark).elim
  | redeclares redeclared' skipped' counts' settles =>
    rw [redeclared] at redeclared'
    rwa [first_counting_unique redeclared' skipped counts skipped' counts']
  | implements none _ => exact (none other (by rw [redeclared]; simp) counts).elim

/-- An examination is positive and right exactly if that of the redeclared method that decides is: a
method that counts but is denied leaves a wrong note. -/
theorem consult_iff_first {fuel : Nat} {after : List FuncId} {other : FuncId} {next : Memo}
    (unmarked : (rules.markers.of func).kind ≠ .terminal)
    (asked : anyAnswer (rules.examine fuel) (rules.redeclared func) ((func, false) :: current) =
      anyAnswer (rules.examine fuel) (other :: after) next)
    (clean : rules.Clean memo (func :: under) next) (counts : rules.Counts memo (func :: under) other)
    (noted : (rules.examine fuel other next).2.lookup other = some (rules.examine fuel other next).1)
    (free : func ∉ under) (terminal : rules.Terminal memo func) (unknown : memo.lookup func = none) :
    ((rules.examine fuel other next).1 = true ∧
      rules.Faithful memo (func :: under) (rules.examine fuel other next).2) ↔
    ((rules.consult fuel func ((func, false) :: current)).1 = true ∧
      rules.Faithful memo under ((func, (rules.consult fuel func ((func, false) :: current)).1) ::
        (rules.consult fuel func ((func, false) :: current)).2)) := by
  have later := rules.examine_extends fuel other next
  rcases result : rules.examine fuel other next with ⟨given, last⟩
  rw [result] at later noted
  cases given with
  | true =>
    have consulted : rules.consult fuel func ((func, false) :: current) = (true, last) := by
      simp only [consult, unmarked, if_false, asked, anyAnswer, result]
    rw [consulted]
    constructor
    · rintro ⟨-, faithful⟩
      exact ⟨rfl, faithful.affirm free terminal unknown⟩
    · rintro ⟨-, faithful⟩
      refine ⟨rfl, faithful.before (later.trans clean.extended) ?_ free⟩
      exact later func false (clean.pending func List.mem_cons_self)
  | false =>
    refine iff_of_false (fun positive => Bool.noConfusion positive.1) ?_
    rintro ⟨-, faithful⟩
    -- The wrong note outlasts the examination, whatever comes after it.
    have kept : (rules.consult fuel func ((func, false) :: current)).2.lookup other = some false := by
      rw [rules.consult_snd unmarked, asked]
      simp only [anyAnswer, result]
      exact anyAnswer_extends (rules.examine_extends fuel) after last other false noted
    have ne : other ≠ func := fun same => counts.2 (same ▸ List.mem_cons_self)
    have outside : other ∉ under := fun member => counts.2 (List.mem_cons_of_mem _ member)
    rw [← Memo.lookup_note_ne _ (rules.consult fuel func ((func, false) :: current)).1 ne] at kept
    exact Bool.noConfusion ((faithful.others other false outside kept).mpr counts.1)

/-- A terminal method settles exactly if its examination, on top of nothing but denials, is
positive and leaves only right notes. -/
theorem settles_iff {fuel : Nat} (enough : (rules.unknowns current).length < fuel)
    (clean : rules.Clean memo under current) (free : func ∉ under)
    (terminal : rules.Terminal memo func) :
    rules.Settles memo under func ↔
      (rules.examine fuel func current).1 = true ∧
        rules.Faithful memo under (rules.examine fuel func current).2 := by
  induction fuel generalizing func under current with
  | zero => cases enough
  | succ fuel ih =>
    cases known : current.lookup func with
    | some given =>
      have before : memo.lookup func = some true := by
        rcases clean.others func given free known with before | ⟨_, absent⟩
        · rwa [(Terminal.of_known before).mp terminal] at before
        · exact (absent terminal).elim
      rw [rules.examine_known (clean.extended func true before)]
      exact iff_of_true (.known before) ⟨rfl, clean.faithful⟩
    | none =>
      have unknown := clean.unknown known
      have begun := clean.begin known
      rw [rules.examine_unknown known]
      by_cases marked : (rules.markers.of func).kind = .terminal
      · have result : rules.consult fuel func ((func, false) :: current) =
            (true, (func, false) :: current) := by simp only [consult, marked, if_true]
        rw [result]
        exact iff_of_true (.marked marked) ⟨rfl, begun.faithful.affirm free terminal unknown⟩
      have quiet (other : FuncId) (memory : Memo) (silent : ¬ rules.Counts memo (func :: under) other)
          (clean : rules.Clean memo (func :: under) memory) := examine_clean fuel silent clean
      rcases counts_cases rules memo (func :: under) (rules.redeclared func) with
        none | ⟨before, other, after, redeclared, skipped, counts⟩
      · obtain ⟨next, asked, clean, -⟩ :=
          anyAnswer_clean quiet (rules.examine_extends fuel) none begun []
        rw [List.append_nil] at asked
        have result : rules.consult fuel func ((func, false) :: current) =
            (rules.implementsTerminal func, next) := by
          simp only [consult, marked, if_false, asked, anyAnswer]
        rw [result, settles_iff_implements unknown marked none]
        refine ⟨fun found => ⟨found, ?_⟩, And.left⟩
        rw [found]
        exact clean.faithful.affirm free terminal unknown
      · obtain ⟨next, asked, clean, further⟩ :=
          anyAnswer_clean quiet (rules.examine_extends fuel) skipped begun (other :: after)
        rw [← redeclared] at asked
        -- The method itself is noted by now, so the fuel suffices for the next one.
        have fewer : (rules.unknowns next).length < fuel := by
          have declared : func < rules.markers.decls.functions.length :=
            lt_of_mem_redeclared (by rw [redeclared]; simp : other ∈ rules.redeclared func)
          have noted := length_unknowns_note known declared false
          have less : (rules.unknowns next).length ≤ (rules.unknowns ((func, false) :: current)).length :=
            (unknowns_sublist further).length_le
          omega
        have noted : (rules.examine fuel other next).2.lookup other =
            some (rules.examine fuel other next).1 := by
          obtain ⟨less, rfl⟩ := Nat.exists_eq_add_of_lt (Nat.zero_lt_of_lt fewer)
          rw [Nat.zero_add]
          exact rules.lookup_examine less other next
        rw [settles_iff_first unknown marked redeclared skipped counts, ih fewer clean counts.2 counts.1]
        exact consult_iff_first marked asked clean counts noted free terminal unknown

end Fluent.TerminalRules
