import Fluent.Proofs.Index.Eligibility

/-! The order in which types are visited.

The stages of a package are found by asking its types for their terminal names. In which order that
is done can make a difference, since an answer can depend on what has been asked before. Where all
methods settle it makes none. The index is the same, it reports the same entry points, and its
answers are the same from then on. -/

set_option autoImplicit false

namespace Fluent

theorem TerminalRules.stages_of_settled {rules : TerminalRules} {memo : Memo} (settled : rules.Settled memo)
    (first second : VisitOrder) (results : List Ty) :
    (rules.stages first results memo).1 = (rules.stages second results memo).1 := by
  have faithful := Faithful.refl rules memo
  rw [stages_eq, stages_eq, terminalTable_settled settled faithful, terminalTable_settled settled faithful,
    rules.reachableNames_of_perm ((first.perm _).trans (second.perm _).symm)]

/-- Right notes change no answer. -/
theorem Index.view_settled (index : Index) {memo current : Memo} (settled : index.rules.Settled memo)
    (faithful : index.rules.Faithful memo [] current) : index.view current = index.view memo := by
  funext question
  cases question with
  | facts id => exact index.facts_settled settled faithful id
  | terminal func => exact faithful.answer func

namespace IndexInput

variable (input : IndexInput) {order : VisitOrder}

/-- The same input with another order of visits. -/
def visiting (input : IndexInput) (order : VisitOrder) : IndexInput := { input with order }

theorem index_visiting (settled : input.terminalRules.Settled []) :
    (input.visiting order).build.index = input.build.index := by
  have same : (input.visiting order).found.1 = input.found.1 :=
    TerminalRules.stages_of_settled settled order input.order _
  rw [build_def (input.visiting order), build_def input, same]
  rfl

theorem declarations_visiting (settled : input.terminalRules.Settled []) :
    (input.visiting order).build.declarations = input.build.declarations := by
  obtain ⟨asked, -, declared⟩ := input.build_eq
  obtain ⟨again, -, redeclared⟩ := (input.visiting order).build_eq
  have facts (func : FuncId) : (input.visiting order).resultFacts (input.visiting order).build.index func [] =
      input.resultFacts input.build.index func [] := by
    rw [input.index_visiting settled]
    rfl
  rw [declared, redeclared,
    input.checkEntries_settled settled (input.build.index.faithful_after settled asked),
    (input.visiting order).checkEntries_settled settled
      ((input.visiting order).build.index.faithful_after settled again)]
  simp only [facts]
  rfl

end IndexInput

end Fluent
