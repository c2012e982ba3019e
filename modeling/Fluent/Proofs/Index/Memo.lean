import Fluent.Index.Inquiry

/-! Answers of an index are kept.

What a memo says about a function is never changed again, so an inquiry gives what it would
give against the fixed answers of any memo that comes after it. -/

set_option autoImplicit false

namespace Fluent

/-- A later memo knows all that an earlier one knows. -/
def Memo.Extends (later earlier : Memo) : Prop :=
  ∀ func answer, earlier.lookup func = some answer → later.lookup func = some answer

namespace Memo

theorem Extends.refl (memo : Memo) : Extends memo memo := fun _ _ known => known

theorem Extends.trans {last later earlier : Memo} (second : Extends last later)
    (first : Extends later earlier) : Extends last earlier :=
  fun func answer known => second func answer (first func answer known)

theorem unknown_of_extends {later earlier : Memo} {func : FuncId} (extended : Extends later earlier)
    (unknown : later.lookup func = none) : earlier.lookup func = none := by
  cases known : earlier.lookup func with
  | none => rfl
  | some answer =>
    rw [extended func answer known] at unknown
    cases unknown

theorem lookup_note (memo : Memo) (func : FuncId) (answer : Bool) :
    List.lookup func ((func, answer) :: memo) = some answer := by
  simp

theorem lookup_note_ne (memo : Memo) {func other : FuncId} (answer : Bool) (ne : other ≠ func) :
    List.lookup other ((func, answer) :: memo) = memo.lookup other := by
  simp [List.lookup_cons, beq_false_of_ne ne]

theorem extends_note {later earlier : Memo} {func : FuncId} (answer : Bool)
    (unknown : earlier.lookup func = none) (extended : Extends later earlier) :
    Extends ((func, answer) :: later) earlier := by
  intro other given known
  have ne : other ≠ func := by
    rintro rfl
    rw [unknown] at known
    cases known
  rw [lookup_note_ne later answer ne]
  exact extended other given known

end Memo

namespace TerminalRules

variable (rules : TerminalRules)

/-- What the examination of a function comes to, after the function has been noted. -/
def consult (fuel : Nat) (func : FuncId) (memo : Memo) : Bool × Memo :=
  if (rules.markers.of func).kind = .terminal then (true, memo)
  else
    match anyAnswer (rules.examine fuel) (rules.redeclared func) memo with
    | (true, memo) => (true, memo)
    | (false, memo) => (rules.implementsTerminal func, memo)

theorem examine_known {fuel : Nat} {func : FuncId} {memo : Memo} {answer : Bool}
    (known : memo.lookup func = some answer) :
    rules.examine (fuel + 1) func memo = (answer, memo) := by
  simp only [examine, known]

theorem examine_unknown {fuel : Nat} {func : FuncId} {memo : Memo}
    (unknown : memo.lookup func = none) :
    rules.examine (fuel + 1) func memo =
      ((rules.consult fuel func ((func, false) :: memo)).1,
        (func, (rules.consult fuel func ((func, false) :: memo)).1) ::
          (rules.consult fuel func ((func, false) :: memo)).2) := by
  simp only [examine, unknown]
  rfl

theorem consult_cases (fuel : Nat) (func : FuncId) (memo : Memo) :
    ((rules.markers.of func).kind = .terminal ∧ rules.consult fuel func memo = (true, memo)) ∨
    ((rules.markers.of func).kind ≠ .terminal ∧ ∃ later,
      anyAnswer (rules.examine fuel) (rules.redeclared func) memo = (true, later) ∧
      rules.consult fuel func memo = (true, later)) ∨
    ((rules.markers.of func).kind ≠ .terminal ∧ ∃ later,
      anyAnswer (rules.examine fuel) (rules.redeclared func) memo = (false, later) ∧
      rules.consult fuel func memo = (rules.implementsTerminal func, later)) := by
  by_cases marked : (rules.markers.of func).kind = .terminal
  · exact Or.inl ⟨marked, by simp [consult, marked]⟩
  · rcases result : anyAnswer (rules.examine fuel) (rules.redeclared func) memo with ⟨answer, later⟩
    cases answer with
    | true => exact Or.inr (Or.inl ⟨marked, later, rfl, by simp [consult, marked, result]⟩)
    | false => exact Or.inr (Or.inr ⟨marked, later, rfl, by simp [consult, marked, result]⟩)

theorem consult_snd {func : FuncId} (unmarked : (rules.markers.of func).kind ≠ .terminal) (fuel : Nat)
    (memo : Memo) : (rules.consult fuel func memo).2 =
      (anyAnswer (rules.examine fuel) (rules.redeclared func) memo).2 := by
  obtain ⟨marked, -⟩ | ⟨-, later, asked, same⟩ | ⟨-, later, asked, same⟩ :=
    rules.consult_cases fuel func memo
  · exact (unmarked marked).elim
  · rw [same, asked]
  · rw [same, asked]

theorem anyAnswer_extends {answer : FuncId → Memo → Bool × Memo}
    (extended : ∀ func memo, Memo.Extends (answer func memo).2 memo) (funcs : List FuncId)
    (memo : Memo) : Memo.Extends (anyAnswer answer funcs memo).2 memo := by
  induction funcs generalizing memo with
  | nil => exact Memo.Extends.refl memo
  | cons func funcs ih =>
    have first := extended func memo
    rcases result : answer func memo with ⟨given, later⟩
    rw [result] at first
    cases given with
    | true => simpa only [anyAnswer, result] using first
    | false => simpa only [anyAnswer, result] using (ih later).trans first

theorem examine_extends (fuel : Nat) (func : FuncId) (memo : Memo) :
    Memo.Extends (rules.examine fuel func memo).2 memo := by
  induction fuel generalizing func memo with
  | zero => exact Memo.Extends.refl memo
  | succ fuel ih =>
    cases known : memo.lookup func with
    | some answer =>
      rw [rules.examine_known known]
      exact Memo.Extends.refl memo
    | none =>
      rw [rules.examine_unknown known]
      have noted : Memo.Extends ((func, false) :: memo) memo :=
        Memo.extends_note false known (Memo.Extends.refl memo)
      have asked := anyAnswer_extends ih (rules.redeclared func) ((func, false) :: memo)
      refine Memo.extends_note _ known (Memo.Extends.trans ?_ noted)
      obtain ⟨-, same⟩ | ⟨-, later, result, same⟩ | ⟨-, later, result, same⟩ :=
        rules.consult_cases fuel func ((func, false) :: memo)
      · rw [same]
        exact Memo.Extends.refl _
      · rw [same]
        rwa [result] at asked
      · rw [same]
        rwa [result] at asked

theorem isTerminal_extends (func : FuncId) (memo : Memo) :
    Memo.Extends (rules.isTerminal func memo).2 memo :=
  rules.examine_extends _ func memo

theorem lookup_examine (fuel : Nat) (func : FuncId) (memo : Memo) :
    (rules.examine (fuel + 1) func memo).2.lookup func = some (rules.examine (fuel + 1) func memo).1 := by
  cases known : memo.lookup func with
  | some answer =>
    rw [rules.examine_known known]
    exact known
  | none =>
    rw [rules.examine_unknown known]
    exact Memo.lookup_note _ _ _

theorem lookup_isTerminal (func : FuncId) (memo : Memo) :
    (rules.isTerminal func memo).2.lookup func = some (rules.isTerminal func memo).1 :=
  rules.lookup_examine _ func memo

theorem isTerminal_known {func : FuncId} {memo : Memo} {answer : Bool}
    (known : memo.lookup func = some answer) : rules.isTerminal func memo = (answer, memo) :=
  rules.examine_known known

theorem isTerminal_later {func : FuncId} {memo later : Memo}
    (extended : Memo.Extends later (rules.isTerminal func memo).2) :
    rules.isTerminal func later = ((rules.isTerminal func memo).1, later) :=
  rules.isTerminal_known (extended func _ (rules.lookup_isTerminal func memo))

theorem filterAnswers_extends (funcs : List FuncId) (memo : Memo) :
    Memo.Extends (filterAnswers rules.isTerminal funcs memo).2 memo := by
  induction funcs generalizing memo with
  | nil => exact Memo.Extends.refl memo
  | cons func funcs ih => exact (ih _).trans (rules.isTerminal_extends func memo)

theorem filterAnswers_later (funcs : List FuncId) {memo later : Memo}
    (extended : Memo.Extends later (filterAnswers rules.isTerminal funcs memo).2) :
    filterAnswers rules.isTerminal funcs later =
      ((filterAnswers rules.isTerminal funcs memo).1, later) := by
  induction funcs generalizing memo with
  | nil => rfl
  | cons func funcs ih =>
    have rest : filterAnswers rules.isTerminal funcs later =
        ((filterAnswers rules.isTerminal funcs (rules.isTerminal func memo).2).1, later) :=
      ih extended
    have first := rules.isTerminal_later
      (extended.trans (rules.filterAnswers_extends funcs (rules.isTerminal func memo).2))
    simp only [filterAnswers, first, rest]

theorem terminalNames_extends (id : NamedId) (memo : Memo) :
    Memo.Extends (rules.terminalNames id memo).2 memo :=
  rules.filterAnswers_extends _ memo

theorem terminalNames_later (id : NamedId) {memo later : Memo}
    (extended : Memo.Extends later (rules.terminalNames id memo).2) :
    rules.terminalNames id later = ((rules.terminalNames id memo).1, later) := by
  have same := rules.filterAnswers_later _ extended
  simp only [terminalNames, same]

end TerminalRules

namespace Index

variable (index : Index)

theorem facts_eq (id : NamedId) (memo : Memo) :
    index.facts id memo =
      (match (index.rules.terminalNames id memo).1 with
        | [] => (index.stages.lookup id).map fun reachable => { terminals := [], reachable }
        | terminals => some { terminals, reachable := [] },
        (index.rules.terminalNames id memo).2) := by
  rcases result : index.rules.terminalNames id memo with ⟨names, later⟩
  cases names <;> simp only [facts, result]

theorem answer_extends (question : Question) (memo : Memo) :
    Memo.Extends (index.answer question memo).2 memo := by
  cases question with
  | facts id =>
    simp only [answer, facts_eq]
    exact index.rules.terminalNames_extends id memo
  | terminal func => exact index.rules.isTerminal_extends func memo

theorem answer_later (question : Question) {memo later : Memo}
    (extended : Memo.Extends later (index.answer question memo).2) :
    index.answer question later = ((index.answer question memo).1, later) := by
  cases question with
  | facts id =>
    simp only [answer, facts_eq] at extended ⊢
    rw [index.rules.terminalNames_later id extended]
  | terminal func => exact index.rules.isTerminal_later extended

/-- The answers of an index with a memo to all questions, each asked on its own. -/
def view (memo : Memo) : Inquiry.View := fun question => (index.answer question memo).1

theorem run_pure {α : Type} (value : α) (memo : Memo) :
    index.run (pure value) memo = (value, memo) := rfl

theorem run_bind {α β : Type} (inquiry : Inquiry α) (next : α → Inquiry β) (memo : Memo) :
    index.run (inquiry >>= next) memo =
      index.run (next (index.run inquiry memo).1) (index.run inquiry memo).2 :=
  Inquiry.runFrom_bind index.answer inquiry next memo

theorem run_extends {α : Type} (inquiry : Inquiry α) (memo : Memo) :
    Memo.Extends (index.run inquiry memo).2 memo := by
  induction inquiry generalizing memo with
  | done value => exact Memo.Extends.refl memo
  | ask question next ih => exact (ih _ _).trans (index.answer_extends question memo)

/-- A run gives what it would give against the answers that are fixed when it is over. -/
theorem run_eq_runWith {α : Type} (inquiry : Inquiry α) {memo later : Memo}
    (extended : Memo.Extends later (index.run inquiry memo).2) :
    (index.run inquiry memo).1 = inquiry.runWith (index.view later) := by
  induction inquiry generalizing memo with
  | done value => rfl
  | ask question next ih =>
    have rest := ih (index.answer question memo).1 extended
    have first := index.answer_later question
      (extended.trans (index.run_extends (next _) (index.answer question memo).2))
    have same : index.view later question = (index.answer question memo).1 := by
      rw [view, first]
    rw [Inquiry.runWith, same]
    exact rest

end Index

end Fluent
