import Fluent.Proofs.Index.Memo
import Mathlib.Data.List.Basic

/-! What it means that a method is terminal, and what an examination finds out about it.

Seen from a memo, a method is terminal if the memo says so, or if the memo does not know it
and it is marked, redeclares a terminal method or implements one. An examination gives the
right answer about the method that it is called for. A negative one leaves the right notes
about all methods that it has come across. -/

set_option autoImplicit false

namespace Fluent.TerminalRules

variable (rules : TerminalRules)

/-- The terminal methods, with what a memo knows taken for granted. -/
inductive Terminal (memo : Memo) : FuncId → Prop where
  | known {func : FuncId} : memo.lookup func = some true → Terminal memo func
  | marked {func : FuncId} : memo.lookup func = none → (rules.markers.of func).kind = .terminal →
      Terminal memo func
  | redeclares {func other : FuncId} : memo.lookup func = none → other ∈ rules.redeclared func →
      Terminal memo other → Terminal memo func
  | implements {func : FuncId} : memo.lookup func = none → rules.implementsTerminal func = true →
      Terminal memo func

variable {rules} {memo later : Memo} {func : FuncId}

theorem Terminal.of_known {answer : Bool} (known : memo.lookup func = some answer) :
    rules.Terminal memo func ↔ answer = true := by
  constructor
  · intro terminal
    cases terminal with
    | known yes =>
      rw [known] at yes
      exact Option.some.inj yes
    | marked unknown _ | redeclares unknown _ _ | implements unknown _ =>
      rw [known] at unknown
      cases unknown
  · rintro rfl
    exact .known known

theorem Terminal.of_unknown (unknown : memo.lookup func = none) :
    rules.Terminal memo func ↔
      (rules.markers.of func).kind = .terminal ∨
      (∃ other ∈ rules.redeclared func, rules.Terminal memo other) ∨
      rules.implementsTerminal func = true := by
  constructor
  · intro terminal
    cases terminal with
    | known yes =>
      rw [unknown] at yes
      cases yes
    | marked _ mark => exact Or.inl mark
    | redeclares _ member other => exact Or.inr (Or.inl ⟨_, member, other⟩)
    | implements _ found => exact Or.inr (Or.inr found)
  · rintro (mark | ⟨other, member, terminal⟩ | found)
    · exact .marked unknown mark
    · exact .redeclares unknown member terminal
    · exact .implements unknown found

theorem Terminal.of_negative_notes
    (notes : ∀ other answer, later.lookup other = some answer →
      memo.lookup other = some answer ∨ answer = false)
    (extended : later.Extends memo) (terminal : rules.Terminal later func) :
    rules.Terminal memo func := by
  induction terminal with
  | @known other yes =>
    rcases notes other true yes with before | no
    · exact .known before
    · cases no
  | @marked other unknown mark => exact .marked (Memo.unknown_of_extends extended unknown) mark
  | @redeclares other next unknown member _ ih =>
    exact .redeclares (Memo.unknown_of_extends extended unknown) member ih
  | @implements other unknown found =>
    exact .implements (Memo.unknown_of_extends extended unknown) found

/-- A memo that has been extended by right notes has the same terminal methods. -/
theorem Terminal.of_right_notes (extended : later.Extends memo)
    (right : ∀ other answer, later.lookup other = some answer →
      (answer = true ↔ rules.Terminal memo other)) :
    rules.Terminal later func ↔ rules.Terminal memo func := by
  constructor
  · intro terminal
    induction terminal with
    | @known other yes => exact (right other true yes).mp rfl
    | @marked other unknown mark => exact .marked (Memo.unknown_of_extends extended unknown) mark
    | @redeclares other next unknown member _ ih =>
      exact .redeclares (Memo.unknown_of_extends extended unknown) member ih
    | @implements other unknown found =>
      exact .implements (Memo.unknown_of_extends extended unknown) found
  · intro terminal
    have noted {other : FuncId} {answer : Bool} (given : later.lookup other = some answer)
        (terminal : rules.Terminal memo other) : rules.Terminal later other := by
      rw [(right other answer given).mpr terminal] at given
      exact .known given
    induction terminal with
    | @known other yes => exact .known (extended other true yes)
    | @marked other unknown mark =>
      cases given : later.lookup other with
      | none => exact .marked given mark
      | some answer => exact noted given (.marked unknown mark)
    | @redeclares other next unknown member terminal ih =>
      cases given : later.lookup other with
      | none => exact .redeclares given member ih
      | some answer => exact noted given (.redeclares unknown member terminal)
    | @implements other unknown found =>
      cases given : later.lookup other with
      | none => exact .implements given found
      | some answer => exact noted given (.implements unknown found)

theorem Terminal.of_note {other : FuncId} (unknown : memo.lookup func = none)
    (terminal : rules.Terminal ((func, false) :: memo) other) : rules.Terminal memo other := by
  refine terminal.of_negative_notes ?_ (Memo.extends_note false unknown (Memo.Extends.refl memo))
  intro third given noted
  by_cases same : third = func
  · subst same
    rw [Memo.lookup_note] at noted
    exact Or.inr (Option.some.inj noted).symm
  · rw [Memo.lookup_note_ne memo false same] at noted
    exact Or.inl noted

theorem Terminal.of_right_note {other : FuncId} (unknown : memo.lookup func = none)
    (absent : ¬ rules.Terminal memo func) :
    rules.Terminal ((func, false) :: memo) other ↔ rules.Terminal memo other := by
  apply Terminal.of_right_notes (Memo.extends_note false unknown (Memo.Extends.refl memo))
  intro third given noted
  by_cases same : third = func
  · subst same
    rw [Memo.lookup_note] at noted
    rw [← Option.some.inj noted]
    simpa using absent
  · rw [Memo.lookup_note_ne memo false same] at noted
    exact (Terminal.of_known noted).symm

/-- A terminal method is so without its own help. -/
theorem Terminal.without_itself (unknown : memo.lookup func = none)
    (terminal : rules.Terminal memo func) :
    (rules.markers.of func).kind = .terminal ∨
      (∃ other ∈ rules.redeclared func, rules.Terminal ((func, false) :: memo) other) ∨
      rules.implementsTerminal func = true := by
  -- Either the method's own grounds are met, or a derivation does without the method.
  have either {other : FuncId} (terminal : rules.Terminal memo other) :
      ((rules.markers.of func).kind = .terminal ∨
        (∃ other ∈ rules.redeclared func, rules.Terminal ((func, false) :: memo) other) ∨
        rules.implementsTerminal func = true) ∨
      rules.Terminal ((func, false) :: memo) other := by
    induction terminal with
    | @known other yes =>
      have ne : other ≠ func := by
        rintro rfl
        rw [unknown] at yes
        cases yes
      exact Or.inr (.known ((Memo.lookup_note_ne memo false ne).trans yes))
    | @marked other absent mark =>
      by_cases same : other = func
      · exact Or.inl (Or.inl (same ▸ mark))
      · exact Or.inr (.marked ((Memo.lookup_note_ne memo false same).trans absent) mark)
    | @redeclares other next absent member _ ih =>
      rcases ih with grounds | below
      · exact Or.inl grounds
      · by_cases same : other = func
        · exact Or.inl (Or.inr (Or.inl ⟨next, same ▸ member, below⟩))
        · exact Or.inr (.redeclares ((Memo.lookup_note_ne memo false same).trans absent) member below)
    | @implements other absent found =>
      by_cases same : other = func
      · exact Or.inl (Or.inr (Or.inr (same ▸ found)))
      · exact Or.inr (.implements ((Memo.lookup_note_ne memo false same).trans absent) found)
  rcases either terminal with grounds | itself
  · exact grounds
  · have no := (Terminal.of_known (Memo.lookup_note memo func false)).mp itself
    cases no

/-- The functions that a memo does not know. -/
def unknowns (rules : TerminalRules) (memo : Memo) : List FuncId :=
  (List.range rules.markers.decls.functions.length).filter fun func => (memo.lookup func).isNone

theorem unknowns_sublist (extended : later.Extends memo) :
    (rules.unknowns later).Sublist (rules.unknowns memo) := by
  apply List.monotone_filter_right
  intro func unknown
  rw [Option.isNone_iff_eq_none] at unknown ⊢
  exact Memo.unknown_of_extends extended unknown

theorem length_unknowns_note (unknown : memo.lookup func = none)
    (declared : func < rules.markers.decls.functions.length) (answer : Bool) :
    (rules.unknowns ((func, answer) :: memo)).length < (rules.unknowns memo).length := by
  have fewer : (rules.unknowns ((func, answer) :: memo)).Sublist (rules.unknowns memo) :=
    unknowns_sublist (Memo.extends_note answer unknown (Memo.Extends.refl memo))
  refine Nat.lt_of_le_of_ne fewer.length_le fun same => ?_
  have member : func ∈ rules.unknowns memo := by simp [unknowns, declared, unknown]
  rw [← fewer.eq_of_length same] at member
  simp [unknowns] at member

theorem mem_redeclared {other : FuncId} : other ∈ rules.redeclared func ↔
    ∃ function base package fields field found,
      rules.markers.decls.functions[func]? = some function ∧
      rules.markers.decls.receiverBase? func = some base ∧
      rules.markers.decls.underlying (.plain base) = .struct package fields ∧
      field ∈ fields ∧ field.embedded = true ∧
      rules.markers.decls.method? field.type function.package function.name = some found ∧
      found.func ≠ func ∧ rules.markers.decls.identicalMethods found (.plain func) = true ∧
      found.func = other := by
  constructor
  · intro member
    simp only [redeclared] at member
    split at member
    next function base declared receiver =>
      split at member
      next package fields struct =>
        obtain ⟨field, selected, accepted⟩ := List.mem_filterMap.mp member
        obtain ⟨listed, embedded⟩ := List.mem_filter.mp selected
        split at accepted
        next found method =>
          split at accepted
          next fits =>
            exact ⟨function, base, package, fields, field, found, declared, receiver, struct, listed,
              embedded, method, fits.1, fits.2, Option.some.inj accepted⟩
          next => cases accepted
        next => cases accepted
      next => cases member
    next => cases member
  · rintro ⟨function, base, package, fields, field, found, declared, receiver, struct, listed,
      embedded, method, distinct, identical, rfl⟩
    simp only [redeclared, declared, receiver, struct]
    refine List.mem_filterMap.mpr ⟨field, List.mem_filter.mpr ⟨listed, embedded⟩, ?_⟩
    simp only [method]
    exact if_pos ⟨distinct, identical⟩

theorem lt_of_mem_redeclared {other : FuncId} (member : other ∈ rules.redeclared func) :
    func < rules.markers.decls.functions.length := by
  obtain ⟨_, _, _, _, _, _, declared, -⟩ := mem_redeclared.mp member
  exact (List.getElem?_eq_some_iff.mp declared).1

/-- Are all notes that a memo has more than an earlier one negative, and right? -/
def Refutes (rules : TerminalRules) (later memo : Memo) : Prop :=
  ∀ other given, later.lookup other = some given →
    memo.lookup other = some given ∨ given = false ∧ ¬ rules.Terminal memo other

theorem Refutes.refl (memo : Memo) : rules.Refutes memo memo := fun _ _ known => Or.inl known

theorem Refutes.same (notes : rules.Refutes later memo) (extended : later.Extends memo)
    (other : FuncId) : rules.Terminal later other ↔ rules.Terminal memo other := by
  apply Terminal.of_right_notes extended
  intro third given known
  rcases notes third given known with before | ⟨rfl, no⟩
  · exact (Terminal.of_known before).symm
  · simp [no]

theorem Refutes.trans {last : Memo} (second : rules.Refutes last later) (first : rules.Refutes later memo)
    (extended : later.Extends memo) : rules.Refutes last memo := by
  intro other given known
  rcases second other given known with before | ⟨rfl, no⟩
  · exact first other given before
  · exact Or.inr ⟨rfl, fun terminal => no ((first.same extended other).mpr terminal)⟩

/-- What is expected of an answer to whether a method is terminal. -/
def Right (rules : TerminalRules) (memo : Memo) (terminal : Prop) (result : Bool × Memo) : Prop :=
  (result.1 = true ↔ terminal) ∧ (result.1 = false → rules.Refutes result.2 memo)

theorem anyAnswer_right {answer : FuncId → Memo → Bool × Memo} {bound : Nat}
    (extended : ∀ func memo, Memo.Extends (answer func memo).2 memo)
    (right : ∀ func memo, (rules.unknowns memo).length < bound →
      rules.Right memo (rules.Terminal memo func) (answer func memo))
    (funcs : List FuncId) (few : (rules.unknowns memo).length < bound) :
    rules.Right memo (∃ func ∈ funcs, rules.Terminal memo func) (anyAnswer answer funcs memo) := by
  induction funcs generalizing memo with
  | nil => exact ⟨by simp [anyAnswer], fun _ => Refutes.refl memo⟩
  | cons func funcs ih =>
    obtain ⟨positive, negative⟩ := right func memo few
    have further := extended func memo
    rcases result : answer func memo with ⟨given, next⟩
    rw [result] at positive negative further
    cases given with
    | true =>
      simp only [anyAnswer, result]
      exact ⟨iff_of_true rfl ⟨func, List.mem_cons_self, positive.mp rfl⟩, fun no => Bool.noConfusion no⟩
    | false =>
      have refused : ¬ rules.Terminal memo func := fun terminal => Bool.noConfusion (positive.mpr terminal)
      have notes := negative rfl
      have fewer : (rules.unknowns next).length ≤ (rules.unknowns memo).length :=
        (unknowns_sublist further).length_le
      obtain ⟨rest, restNotes⟩ := ih (Nat.lt_of_le_of_lt fewer few)
      simp only [notes.same further] at rest
      simp only [anyAnswer, result]
      refine ⟨?_, fun no => (restNotes no).trans notes further⟩
      rw [rest, List.exists_mem_cons_iff]
      simp only [refused, false_or]

/-- The redeclared methods are asked for with enough fuel. -/
theorem anyAnswer_redeclared {fuel : Nat} (unknown : memo.lookup func = none)
    (enough : (rules.unknowns memo).length < fuel + 1)
    (right : ∀ func memo, (rules.unknowns memo).length < fuel →
      rules.Right memo (rules.Terminal memo func) (rules.examine fuel func memo)) :
    rules.Right ((func, false) :: memo)
      (∃ other ∈ rules.redeclared func, rules.Terminal ((func, false) :: memo) other)
      (anyAnswer (rules.examine fuel) (rules.redeclared func) ((func, false) :: memo)) := by
  by_cases empty : rules.redeclared func = []
  · rw [empty]
    exact ⟨by simp [anyAnswer], fun _ => Refutes.refl _⟩
  · obtain ⟨other, member⟩ := List.exists_mem_of_ne_nil _ empty
    have fewer := length_unknowns_note unknown (lt_of_mem_redeclared member) false
    exact anyAnswer_right (rules.examine_extends fuel) right _ (by omega)

/-- An examination with enough fuel gives the right answer, seen from its memo. If the answer is
negative, so are all its new notes, and they are right. -/
theorem examine_right {fuel : Nat} (enough : (rules.unknowns memo).length < fuel) :
    rules.Right memo (rules.Terminal memo func) (rules.examine fuel func memo) := by
  induction fuel generalizing func memo with
  | zero => cases enough
  | succ fuel ih =>
    cases known : memo.lookup func with
    | some answer =>
      rw [rules.examine_known known]
      exact ⟨(Terminal.of_known known).symm, fun _ => Refutes.refl memo⟩
    | none =>
      obtain ⟨found, notes⟩ := anyAnswer_redeclared known enough fun _ _ few => ih few
      rw [rules.examine_unknown known]
      obtain ⟨marked, result⟩ | ⟨unmarked, next, asked, result⟩ | ⟨unmarked, next, asked, result⟩ :=
        rules.consult_cases fuel func ((func, false) :: memo)
      · rw [result]
        exact ⟨iff_of_true rfl (.marked known marked), fun no => Bool.noConfusion no⟩
      · rw [result]
        obtain ⟨other, member, terminal⟩ := found.mp (by rw [asked])
        exact ⟨iff_of_true rfl (.redeclares known member (terminal.of_note known)),
          fun no => Bool.noConfusion no⟩
      · rw [result]
        have refused : ¬ ∃ other ∈ rules.redeclared func,
            rules.Terminal ((func, false) :: memo) other := by
          rw [← found, asked]
          simp
        have right : rules.implementsTerminal func = true ↔ rules.Terminal memo func := by
          refine ⟨fun implements => .implements known implements, fun terminal => ?_⟩
          rcases terminal.without_itself known with marked | redeclares | implements
          · exact (unmarked marked).elim
          · exact (refused redeclares).elim
          · exact implements
        refine ⟨right, fun no other given noted => ?_⟩
        have absent : ¬ rules.Terminal memo func := by
          rw [← right]
          simpa using no
        by_cases same : other = func
        · subst same
          rw [Memo.lookup_note] at noted
          exact Or.inr ⟨(Option.some.inj noted).symm.trans no, absent⟩
        · rw [Memo.lookup_note_ne _ _ same] at noted
          rw [asked] at notes
          rcases notes rfl other given noted with before | ⟨rfl, unfounded⟩
          · rw [Memo.lookup_note_ne memo false same] at before
            exact Or.inl before
          · rw [Terminal.of_right_note known absent] at unfounded
            exact Or.inr ⟨rfl, unfounded⟩

theorem length_unknowns (rules : TerminalRules) (memo : Memo) :
    (rules.unknowns memo).length < rules.markers.decls.functions.length + 1 := by
  have bounded := List.length_filter_le (fun func => (memo.lookup func).isNone)
    (List.range rules.markers.decls.functions.length)
  rw [List.length_range] at bounded
  exact Nat.lt_succ_of_le bounded

theorem isTerminal_iff (func : FuncId) (memo : Memo) :
    (rules.isTerminal func memo).1 = true ↔ rules.Terminal memo func :=
  (examine_right (rules.length_unknowns memo)).1

end Fluent.TerminalRules
