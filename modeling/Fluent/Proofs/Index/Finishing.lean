import Fluent.Proofs.Index.Eligibility

/-! Which methods finish a chain, told from the declarations alone.

The rules by which a method finishes a chain are read as an inductive definition, and the
examination of a method as a derivation without any limit on its depth. Every question comes to
an end, and only methods that finish a chain are noted as terminal. Where no struct embeds itself
by way of others, all of them are. -/

set_option autoImplicit false

namespace Fluent

namespace TerminalRules

/-- The methods that finish a chain. A method does so by its marker. A method of a struct does so
by redeclaring one that an embedded field has, with the same signature. A method of a type that is
no interface does so by having the name and the signature of a terminal method of an interface that
pointers to the type implement. -/
inductive Finishes (rules : TerminalRules) : FuncId → Prop where
  | marked {func : FuncId} : (rules.markers.of func).kind = .terminal → Finishes rules func
  | redeclares {func : FuncId} {function : Function} {base : NamedId} {package : Option PackageId}
      {fields : List (Field Ty)} {field : Field Ty} {found : Method} :
      rules.markers.decls.functions[func]? = some function →
      rules.markers.decls.receiverBase? func = some base →
      rules.markers.decls.underlying (.plain base) = .struct package fields →
      field ∈ fields → field.embedded = true →
      rules.markers.decls.method? field.type function.package function.name = some found →
      found.func ≠ func → rules.markers.decls.identicalMethods found (.plain func) = true →
      Finishes rules found.func → Finishes rules func
  | implements {func : FuncId} {function : Function} {base : NamedId} {terminal : Method}
      {interface : TypeId} :
      rules.markers.decls.functions[func]? = some function →
      rules.markers.decls.receiverBase? func = some base →
      rules.markers.decls.isInterface (.plain base) = false →
      terminal ∈ rules.interfaceTerminals →
      rules.markers.decls.functionNamed terminal.func = function.name →
      rules.markers.decls.identicalMethods terminal (.plain func) = true →
      rules.markers.decls.functions[terminal.func]?.bind Function.receiver = some interface →
      rules.markers.decls.pointerImplements base (.plain interface) = true →
      Finishes rules func

/-- The question whether one of some methods is terminal, asked of a memo. It comes to an answer
and leaves a memo behind. Nothing limits how far a question leads to others. -/
inductive Asks (rules : TerminalRules) : List FuncId → Memo → Bool → Memo → Prop where
  | none {memo : Memo} : Asks rules [] memo false memo
  | known {func : FuncId} {funcs : List FuncId} {memo : Memo} :
      memo.lookup func = some true → Asks rules (func :: funcs) memo true memo
  | refused {func : FuncId} {funcs : List FuncId} {memo later : Memo} {answer : Bool} :
      memo.lookup func = some false → Asks rules funcs memo answer later →
      Asks rules (func :: funcs) memo answer later
  | marked {func : FuncId} {funcs : List FuncId} {memo : Memo} :
      memo.lookup func = .none → (rules.markers.of func).kind = .terminal →
      Asks rules (func :: funcs) memo true ((func, true) :: (func, false) :: memo)
  | redeclares {func : FuncId} {funcs : List FuncId} {memo later : Memo} :
      memo.lookup func = .none → (rules.markers.of func).kind ≠ .terminal →
      Asks rules (rules.redeclared func) ((func, false) :: memo) true later →
      Asks rules (func :: funcs) memo true ((func, true) :: later)
  | implements {func : FuncId} {funcs : List FuncId} {memo later : Memo} :
      memo.lookup func = .none → (rules.markers.of func).kind ≠ .terminal →
      Asks rules (rules.redeclared func) ((func, false) :: memo) false later →
      rules.implementsTerminal func = true →
      Asks rules (func :: funcs) memo true ((func, true) :: later)
  | denied {func : FuncId} {funcs : List FuncId} {memo between later : Memo} {answer : Bool} :
      memo.lookup func = .none → (rules.markers.of func).kind ≠ .terminal →
      Asks rules (rules.redeclared func) ((func, false) :: memo) false between →
      rules.implementsTerminal func = false →
      Asks rules funcs ((func, false) :: between) answer later →
      Asks rules (func :: funcs) memo answer later

variable {rules : TerminalRules} {memo later : Memo} {func other : FuncId} {funcs : List FuncId}
  {answer : Bool}

theorem implementsTerminal_iff : rules.implementsTerminal func = true ↔
    ∃ function base terminal interface,
      rules.markers.decls.functions[func]? = some function ∧
      rules.markers.decls.receiverBase? func = some base ∧
      rules.markers.decls.isInterface (.plain base) = false ∧
      terminal ∈ rules.interfaceTerminals ∧
      rules.markers.decls.functionNamed terminal.func = function.name ∧
      rules.markers.decls.identicalMethods terminal (.plain func) = true ∧
      rules.markers.decls.functions[terminal.func]?.bind Function.receiver = some interface ∧
      rules.markers.decls.pointerImplements base (.plain interface) = true := by
  constructor
  · intro implements
    simp only [implementsTerminal] at implements
    split at implements
    next function base declared receiver =>
      simp only [Bool.and_eq_true, Bool.not_eq_true', List.any_eq_true, decide_eq_true_eq] at implements
      obtain ⟨concrete, terminal, member, ⟨named, identical⟩, pointer⟩ := implements
      split at pointer
      next interface received =>
        exact ⟨function, base, terminal, interface, declared, receiver, concrete, member, named,
          identical, received, pointer⟩
      next => cases pointer
    next => cases implements
  · rintro ⟨function, base, terminal, interface, declared, receiver, concrete, member, named, identical,
      received, pointer⟩
    simp only [implementsTerminal, declared, receiver, concrete, Bool.not_false, Bool.true_and]
    refine List.any_eq_true.mpr ⟨terminal, member, ?_⟩
    simp only [named, identical, received, pointer, decide_true, Bool.and_self]

theorem Finishes.of_redeclared (member : other ∈ rules.redeclared func) (finishes : rules.Finishes other) :
    rules.Finishes func := by
  obtain ⟨_, _, _, _, _, _, declared, receiver, struct, listed, embedded, method, distinct, identical,
    rfl⟩ := mem_redeclared.mp member
  exact .redeclares declared receiver struct listed embedded method distinct identical finishes

theorem Finishes.of_implements (implements : rules.implementsTerminal func = true) :
    rules.Finishes func := by
  obtain ⟨_, _, _, _, declared, receiver, concrete, member, named, identical, received, pointer⟩ :=
    implementsTerminal_iff.mp implements
  exact .implements declared receiver concrete member named identical received pointer

/-- To a memo without notes, a method that finishes a chain is terminal. -/
theorem Finishes.terminal (finishes : rules.Finishes func) : rules.Terminal [] func := by
  induction finishes with
  | marked kind => exact .marked rfl kind
  | redeclares declared receiver struct listed embedded method distinct identical _ ih =>
    refine .redeclares rfl (mem_redeclared.mpr ?_) ih
    exact ⟨_, _, _, _, _, _, declared, receiver, struct, listed, embedded, method, distinct, identical, rfl⟩
  | implements declared receiver concrete member named identical received pointer =>
    refine .implements rfl (implementsTerminal_iff.mpr ?_)
    exact ⟨_, _, _, _, declared, receiver, concrete, member, named, identical, received, pointer⟩

/-- Do all methods that a memo notes as terminal finish a chain? -/
def Sound (rules : TerminalRules) (memo : Memo) : Prop :=
  ∀ func, memo.lookup func = some true → rules.Finishes func

theorem Sound.deny (sound : rules.Sound memo) : rules.Sound ((func, false) :: memo) := by
  intro other noted
  by_cases same : other = func
  · rw [same, Memo.lookup_note] at noted
    cases noted
  · rw [Memo.lookup_note_ne memo false same] at noted
    exact sound other noted

theorem Sound.affirm (sound : rules.Sound memo) (finishes : rules.Finishes func) :
    rules.Sound ((func, true) :: memo) := by
  intro other noted
  by_cases same : other = func
  · exact same ▸ finishes
  · rw [Memo.lookup_note_ne memo true same] at noted
    exact sound other noted

/-- A question leaves a sound memo sound, and has a positive answer only for grounds. -/
theorem Asks.sound (asks : rules.Asks funcs memo answer later) (sound : rules.Sound memo) :
    rules.Sound later ∧ (answer = true → ∃ func ∈ funcs, rules.Finishes func) := by
  -- A note that denies a method under examination is sound whatever the method turns out to be.
  induction asks with
  | none => exact ⟨sound, fun yes => Bool.noConfusion yes⟩
  | known yes => exact ⟨sound, fun _ => ⟨_, List.mem_cons_self, sound _ yes⟩⟩
  | refused _ _ ih =>
    obtain ⟨kept, grounds⟩ := ih sound
    refine ⟨kept, fun yes => ?_⟩
    obtain ⟨func, member, finishes⟩ := grounds yes
    exact ⟨func, List.mem_cons_of_mem _ member, finishes⟩
  | marked _ kind =>
    exact ⟨sound.deny.affirm (.marked kind), fun _ => ⟨_, List.mem_cons_self, .marked kind⟩⟩
  | redeclares _ _ _ ih =>
    obtain ⟨kept, grounds⟩ := ih sound.deny
    obtain ⟨other, member, finishes⟩ := grounds rfl
    have above := finishes.of_redeclared member
    exact ⟨kept.affirm above, fun _ => ⟨_, List.mem_cons_self, above⟩⟩
  | implements _ _ _ found ih =>
    have finishes := Finishes.of_implements found
    exact ⟨(ih sound.deny).1.affirm finishes, fun _ => ⟨_, List.mem_cons_self, finishes⟩⟩
  | denied _ _ _ _ _ below ih =>
    obtain ⟨kept, grounds⟩ := ih (below sound.deny).1.deny
    refine ⟨kept, fun yes => ?_⟩
    obtain ⟨func, member, finishes⟩ := grounds yes
    exact ⟨func, List.mem_cons_of_mem _ member, finishes⟩

theorem Asks.unique (first : rules.Asks funcs memo answer later) {answer' : Bool} {later' : Memo}
    (second : rules.Asks funcs memo answer' later') : answer' = answer ∧ later' = later := by
  induction first generalizing answer' later' with
  | none =>
    cases second
    exact ⟨rfl, rfl⟩
  | known yes => cases second <;> simp_all
  | refused no _ ih =>
    cases second with
    | refused _ rest => exact ih rest
    | known noted | marked noted | redeclares noted | implements noted | denied noted => simp_all
  | marked unknown kind => cases second <;> simp_all
  | redeclares unknown kind _ ih =>
    cases second with
    | redeclares _ _ below => simp [(ih below).2]
    | implements _ _ below | denied _ _ below => cases (ih below).1
    | known noted | refused noted | marked noted => simp_all
  | implements unknown kind _ found ih =>
    cases second with
    | implements _ _ below => simp [(ih below).2]
    | redeclares _ _ below => cases (ih below).1
    | known noted | refused noted | marked noted | denied noted => simp_all
  | denied unknown kind _ missing _ below ih =>
    cases second with
    | denied _ _ asked _ rest =>
      rw [(below asked).2] at rest
      exact ih rest
    | redeclares _ _ asked => cases (below asked).1
    | known noted | refused noted | marked noted | implements noted => simp_all

/-- If each function is answered as in a derivation, so are the functions in turn. -/
theorem Asks.first (asks : rules.Asks [func] memo true later) : rules.Asks (func :: funcs) memo true later := by
  cases asks with
  | known yes => exact .known yes
  | refused _ rest => cases rest
  | marked unknown kind => exact .marked unknown kind
  | redeclares unknown kind below => exact .redeclares unknown kind below
  | implements unknown kind below found => exact .implements unknown kind below found
  | denied _ _ _ _ rest => cases rest

theorem Asks.next {between : Memo} (asks : rules.Asks [func] memo false between)
    (rest : rules.Asks funcs between answer later) : rules.Asks (func :: funcs) memo answer later := by
  cases asks with
  | refused no empty =>
    cases empty
    exact .refused no rest
  | denied unknown kind below missing empty =>
    cases empty
    exact .denied unknown kind below missing rest

theorem asks_anyAnswer {answers : FuncId → Memo → Bool × Memo} {bound : Nat}
    (extended : ∀ func memo, Memo.Extends (answers func memo).2 memo)
    (asks : ∀ func memo, (rules.unknowns memo).length < bound →
      rules.Asks [func] memo (answers func memo).1 (answers func memo).2)
    (funcs : List FuncId) (few : (rules.unknowns memo).length < bound) :
    rules.Asks funcs memo (anyAnswer answers funcs memo).1 (anyAnswer answers funcs memo).2 := by
  induction funcs generalizing memo with
  | nil => exact .none
  | cons func funcs ih =>
    have first := asks func memo few
    have further := extended func memo
    rcases result : answers func memo with ⟨given, next⟩
    rw [result] at first further
    cases given with
    | true =>
      simp only [anyAnswer, result]
      exact first.first
    | false =>
      simp only [anyAnswer, result]
      exact first.next (ih (Nat.lt_of_le_of_lt (unknowns_sublist further).length_le few))

/-- An examination follows a derivation if its fuel exceeds the number of methods that are not known:
each method it leads to is noted before it leads any further. -/
theorem asks_examine {fuel : Nat} (enough : (rules.unknowns memo).length < fuel) :
    rules.Asks [func] memo (rules.examine fuel func memo).1 (rules.examine fuel func memo).2 := by
  induction fuel generalizing func memo with
  | zero => cases enough
  | succ fuel ih =>
    cases known : memo.lookup func with
    | some given =>
      rw [rules.examine_known known]
      cases given with
      | true => exact .known known
      | false => exact .refused known .none
    | none =>
      have below : rules.Asks (rules.redeclared func) ((func, false) :: memo)
          (anyAnswer (rules.examine fuel) (rules.redeclared func) ((func, false) :: memo)).1
          (anyAnswer (rules.examine fuel) (rules.redeclared func) ((func, false) :: memo)).2 := by
        cases redeclared : rules.redeclared func with
        | nil => exact .none
        | cons other others =>
          -- The method has been noted, so there is one less to be found out about.
          have declared : func < rules.markers.decls.functions.length :=
            lt_of_mem_redeclared (by rw [redeclared]; exact List.mem_cons_self)
          have fewer := length_unknowns_note known declared false
          exact asks_anyAnswer (rules.examine_extends fuel) (fun _ _ few => ih few) _ (by omega)
      rw [rules.examine_unknown known]
      obtain ⟨kind, result⟩ | ⟨kind, next, asked, result⟩ | ⟨kind, next, asked, result⟩ :=
        rules.consult_cases fuel func ((func, false) :: memo)
      · rw [result]
        exact .marked known kind
      · rw [result]
        rw [asked] at below
        exact .redeclares known kind below
      · rw [result]
        rw [asked] at below
        cases found : rules.implementsTerminal func with
        | true => exact .implements known kind below found
        | false => exact .denied known kind below found .none

theorem asks_isTerminal (rules : TerminalRules) (func : FuncId) (memo : Memo) :
    rules.Asks [func] memo (rules.isTerminal func memo).1 (rules.isTerminal func memo).2 :=
  asks_examine (rules.length_unknowns memo)

end TerminalRules

namespace IndexInput

variable (input : IndexInput)

theorem sound_memoAfter (questions : List Question) :
    input.build.index.rules.Sound (input.memoAfter questions) := by
  obtain ⟨asked, start⟩ := input.build_memo
  rw [memoAfter, start, ← Index.after_append]
  apply Index.after_induction
  · intro func memo sound
    exact ((input.build.index.rules.asks_isTerminal func memo).sound sound).1
  · intro func noted
    cases noted

/-- What a built index says about a method, after any questions. The question comes to an end without
any limit on how far it leads to others, with one answer and one memo. The answer is positive only if
the method finishes a chain. Where no struct embeds itself by way of others, it is positive exactly
then. -/
theorem isTerminal_iff_finishes (questions : List Question) (func : FuncId) :
    let rules := input.build.index.rules
    let memo := input.memoAfter questions
    (∀ answer later, rules.Asks [func] memo answer later ↔ rules.isTerminal func memo = (answer, later)) ∧
    ((rules.isTerminal func memo).1 = true → rules.Finishes func) ∧
    (input.program.decls.WellReceived → input.program.decls.AcyclicEmbedding →
      ((rules.isTerminal func memo).1 = true ↔ rules.Finishes func)) := by
  intro rules memo
  have asks := rules.asks_isTerminal func memo
  have sound : (rules.isTerminal func memo).1 = true → rules.Finishes func := by
    intro positive
    obtain ⟨only, member, finishes⟩ := (asks.sound (input.sound_memoAfter questions)).2 positive
    rwa [List.mem_singleton.mp member] at finishes
  refine ⟨?_, sound, ?_⟩
  · intro answer later
    constructor
    · intro other
      obtain ⟨rfl, rfl⟩ := asks.unique other
      rfl
    · intro result
      rwa [result] at asks
  · intro received acyclic
    apply Iff.intro sound
    intro finishes
    -- The questions before have left only right notes, so the answer is that of an empty memo.
    have settled : input.terminalRules.Settled [] :=
      @TerminalRules.settled_of_acyclicEmbedding input.terminalRules received acyclic []
    rw [TerminalRules.isTerminal_iff]
    exact ((input.faithful_memoAfter settled questions).same func).mpr finishes.terminal

end IndexInput

namespace Sample

/-- An interface `Closer`, whose method a rule makes terminal, and a file that implements it. A log
embeds the file and redeclares its method, and has another method `Flush`. -/
def closing : IndexInput :=
  { program :=
      { decls :=
          { packagePaths := ["app"]
            types := #[
              .declared { name := "Closer", package := some 0, underlying := 3, methods := [], typeParams := [] },
              .declared { name := "File", package := some 0, underlying := 4, methods := [1], typeParams := [] },
              .declared { name := "Log", package := some 0, underlying := 5, methods := [2, 3], typeParams := [] },
              .literal (.interface false [0] []),
              .literal (.struct (some 0) []),
              .literal (.struct (some 0) [⟨"File", true, "", 1⟩]),
              .literal (.pointer 1),
              .literal (.pointer 2),
              .literal (.func { params := [], results := [], variadic := false })]
            functions := [
              { name := "Close", package := some 0, type := 8, receiver := some 0, typeParams := [],
                receiverParams := [] },
              { name := "Close", package := some 0, type := 8, receiver := some 6, typeParams := [],
                receiverParams := [] },
              { name := "Close", package := some 0, type := 8, receiver := some 7, typeParams := [],
                receiverParams := [] },
              { name := "Flush", package := some 0, type := 8, receiver := some 7, typeParams := [],
                receiverParams := [] }] }
        packages := [{ imports := [], scope := [("Closer", .type (.plain 0))], files := [] }] }
    package := 0
    rules := { RuleSet.none with terminals := [⟨"(app.Closer).Close", ""⟩] }
    handedOn := []
    order := .asFound }

theorem closing_acyclic : closing.program.decls.AcyclicEmbedding :=
  @Declarations.AcyclicEmbedding.of_flat _ 1 (by decide +kernel)

/-- After a question about the log, `Close` of the file is found terminal, which is not marked and
redeclares nothing, but implements the interface. `Close` of the log is so as well, and `Flush` is not. -/
theorem closing_finishing :
    closing.program.decls.WellReceived ∧ closing.program.decls.AcyclicEmbedding ∧
      (closing.build.index.rules.markers.of 1).kind ≠ .terminal ∧
      closing.build.index.rules.redeclared 1 = [] ∧ closing.build.index.rules.redeclared 2 = [1] ∧
      closing.build.index.rules.Finishes 1 ∧ closing.build.index.rules.Finishes 2 ∧
      ¬ closing.build.index.rules.Finishes 3 := by
  have received : closing.program.decls.WellReceived := by decide +kernel
  have unmarked : (closing.build.index.rules.markers.of 1).kind ≠ .terminal := by decide +kernel
  have negative : (closing.build.index.rules.isTerminal 3 (closing.memoAfter [.facts 2])).1 ≠ true := by
    decide +kernel
  obtain ⟨-, file, -⟩ := closing.isTerminal_iff_finishes [.facts 2] 1
  obtain ⟨-, log, -⟩ := closing.isTerminal_iff_finishes [.facts 2] 2
  obtain ⟨-, -, flush⟩ := closing.isTerminal_iff_finishes [.facts 2] 3
  refine ⟨received, closing_acyclic, unmarked, by decide +kernel, by decide +kernel,
    file (by decide +kernel), log (by decide +kernel), fun other => negative ?_⟩
  exact (flush received closing_acyclic).mpr other

end Sample

end Fluent
