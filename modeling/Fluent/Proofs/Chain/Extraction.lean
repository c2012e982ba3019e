import Fluent.Index.Build
import Fluent.Proofs.Chain.Descent
import Fluent.Proofs.Index.Memo

/-! The positions that chains are extracted from.

Extraction starts a chain at a position that is a link of a chain and whose value no further
step takes up. In a well-typed file the root of a chain is a builder, and so are the values of
all its steps but the last. -/

set_option autoImplicit false

namespace Fluent

open Inquiry (View)

namespace Scene

variable (scene : Scene) (view : View)

/-- Is a callee a method of a builder? -/
def callsBuilder (callee : Node) : Bool :=
  match callee.unparen with
  | .selector _ _ _ (some selection) =>
    selection.kind = .methodValue && view.isBuilder scene.decls (some selection.receiver)
  | _ => false

@[simp] theorem runWith_isElement (callee : Node) (type : Option Ty) :
    (scene.isElement callee type).runWith view =
      (!callee.isType && (scene.callsBuilder view callee || view.isBuilder scene.decls type)) := by
  unfold isElement callsBuilder
  cases callee.isType with
  | true => simp
  | false =>
    simp only [Bool.false_eq_true, if_false, Bool.not_false, Bool.true_and]
    cases callee.unparen with
    | selector head x sel selection =>
      cases selection with
      | none => simp
      | some selection =>
        by_cases kind : selection.kind = .methodValue <;>
          cases builder : view.isBuilder scene.decls (some selection.receiver) <;>
          simp [kind, builder]
    | _ => simp

/-- Is the value at a position selected from? -/
def isSelected (cursor : Cursor) : Bool :=
  match cursor.outOfParens.path with
  | .selectorBase _ _ (some selection) :: _ => selection.kind ≠ .methodExpr
  | _ => false

@[simp] theorem runWith_continues (cursor : Cursor) (type : Option Ty) :
    (scene.continues cursor type).runWith view =
      (isSelected cursor && view.isBuilder scene.decls type) := by
  unfold continues isSelected
  rcases cursor.outOfParens.path with _ | ⟨frame, above⟩
  · simp
  · cases frame with
    | selectorBase head sel selection =>
      cases selection with
      | none => simp
      | some selection => by_cases kind : selection.kind = .methodExpr <;> simp [kind]
    | _ => simp

/-- Does a chain start at a position, and as a reference to a method? -/
def starts? (cursor : Cursor) : Option Bool :=
  match cursor.node with
  | .call head callee _ _ =>
    if !callee.isType && (scene.callsBuilder view callee || view.isBuilder scene.decls head.type) &&
        !(isSelected cursor && view.isBuilder scene.decls head.type)
    then some false else none
  | .selector head _ _ (some selection) =>
    if view.isBuilder scene.decls (some selection.receiver) then
      match selection.kind with
      | .field =>
        if isSelected cursor && view.isBuilder scene.decls head.type then none else some false
      | _ => if scene.decls.isCalled cursor then none else some true
    else none
  | _ => none

/-- The chain of an entry point that is not called, if a name refers to one. -/
def mention (cursor : Cursor) : Inquiry (Option Chain) :=
  match cursor.node with
  | .ident id => scene.entryReference cursor id.use
  | .selector _ _ sel none => scene.entryReference cursor sel.use
  | _ => return none

/-- Extraction collects a chain where one starts, and else looks for an entry point. -/
theorem runWith_chain? (cursor : Cursor) :
    (scene.chain? cursor).runWith view =
      match scene.starts? view cursor with
      | some reference => (scene.chainAt cursor reference).runWith view
      | none => (scene.mention cursor).runWith view := by
  obtain ⟨node, path⟩ := cursor
  cases node with
  | call head callee args spread =>
    simp only [chain?, starts?, mention, Inquiry.runWith_bind, Inquiry.runWith_ite,
      Inquiry.runWith_pure, runWith_isElement, runWith_continues]
    -- Both sides ask the same two questions, in a different order.
    generalize (!callee.isType && (scene.callsBuilder view callee ||
      view.isBuilder scene.decls head.type)) = element
    generalize (isSelected _ && view.isBuilder scene.decls head.type) = goesOn
    cases element <;> cases goesOn <;> rfl
  | selector head x sel selection =>
    cases selection with
    | none => rfl
    | some selection =>
      simp only [chain?, starts?, mention, Inquiry.runWith_bind, Inquiry.runWith_ite,
        Inquiry.runWith_pure, Inquiry.runWith_isBuilder]
      by_cases builder : view.isBuilder scene.decls (some selection.receiver) = true
      · simp only [builder, if_true]
        rcases selection with ⟨kind, receiver, method⟩
        cases kind with
        | field =>
          simp only [Inquiry.runWith_bind, Inquiry.runWith_ite, Inquiry.runWith_pure,
            runWith_continues]
          generalize (isSelected _ && view.isBuilder scene.decls head.type) = goesOn
          cases goesOn <;> rfl
        | methodValue | methodExpr =>
          simp only [Inquiry.runWith_ite, Inquiry.runWith_pure]
          generalize scene.decls.isCalled _ = called
          cases called <;> rfl
      · rw [if_neg builder, if_neg builder]
  | _ => rfl

def keeps (root : Root) (steps : List Step) : Bool := (scene.isChain root steps).runWith view

def rootAt (cursor : Cursor) : Root :=
  scene.root cursor.receiver? (cursor.node.spineBy view scene.decls).base

def stepsAt (cursor : Cursor) : List Step := (cursor.node.spineBy view scene.decls).steps

theorem runWith_chainAt (cursor : Cursor) (reference : Bool) :
    (scene.chainAt cursor reference).runWith view =
      if scene.keeps view (scene.rootAt view cursor) (scene.stepsAt view cursor) then
        some (scene.finish cursor (scene.rootAt view cursor) (scene.stepsAt view cursor) reference)
      else none := by
  simp only [chainAt, Inquiry.runWith_bind, Inquiry.runWith_ite, Inquiry.runWith_pure]
  rfl

/-- A mentioned entry point has a builder for its result and makes a chain without steps. -/
theorem runWith_mention {cursor : Cursor} {chain : Chain}
    (found : (scene.mention cursor).runWith view = some chain) :
    chain.steps = [] ∧ view.isBuilder scene.decls chain.root.type = true ∧
      chain.context.usage = .reference := by
  -- Names and selectors refer to an entry point in the same way.
  have referred (use : Option FuncId)
      (found : (scene.entryReference cursor use).runWith view = some chain) :
      chain.steps = [] ∧ view.isBuilder scene.decls chain.root.type = true ∧
        chain.context.usage = .reference := by
    unfold entryReference at found
    split at found
    next func message _ =>
      simp only [Inquiry.runWith_ite, Inquiry.runWith_bind, Inquiry.runWith_pure,
        Inquiry.runWith_isBuilder] at found
      split at found
      next => cases found
      next =>
        split at found
        next builder =>
          cases found
          exact ⟨rfl, builder, rfl⟩
        next => cases found
    next => cases found
  unfold mention at found
  split at found
  next => exact referred _ found
  next => exact referred _ found
  next => cases found

theorem mem_runWith_chainsAt (cursors : List Cursor) (chain : Chain) :
    chain ∈ (scene.chainsAt cursors).runWith view ↔
      ∃ cursor ∈ cursors, (scene.chain? cursor).runWith view = some chain := by
  induction cursors with
  | nil => simp [chainsAt]
  | cons cursor cursors ih => simp [chainsAt, ih]

/-- A chain is extracted where one starts, or from the mention of an entry point. -/
theorem chain_cases {chain : Chain} (extracted : chain ∈ scene.chains.runWith view) :
    (∃ cursor ∈ scene.file.cursors, ∃ reference,
      scene.starts? view cursor = some reference ∧
      scene.keeps view (scene.rootAt view cursor) (scene.stepsAt view cursor) = true ∧
      chain = scene.finish cursor (scene.rootAt view cursor) (scene.stepsAt view cursor) reference) ∨
    (chain.steps = [] ∧ view.isBuilder scene.decls chain.root.type = true ∧
      chain.context.usage = .reference) := by
  obtain ⟨cursor, visited, found⟩ := (scene.mem_runWith_chainsAt view _ chain).mp extracted
  rw [runWith_chain?] at found
  cases starts : scene.starts? view cursor with
  | none =>
    rw [starts] at found
    exact Or.inr (scene.runWith_mention view found)
  | some reference =>
    simp only [starts, runWith_chainAt] at found
    split at found
    next kept =>
      cases found
      exact Or.inl ⟨cursor, visited, reference, starts, kept, rfl⟩
    next => cases found

theorem finish_mem_chains {cursor : Cursor} {reference : Bool} (visited : cursor ∈ scene.file.cursors)
    (starts : scene.starts? view cursor = some reference)
    (kept : scene.keeps view (scene.rootAt view cursor) (scene.stepsAt view cursor) = true) :
    scene.finish cursor (scene.rootAt view cursor) (scene.stepsAt view cursor) reference ∈
      scene.chains.runWith view := by
  refine (scene.mem_runWith_chainsAt view _ _).mpr ⟨cursor, visited, ?_⟩
  simp only [runWith_chain?, starts, runWith_chainAt, kept, if_true]

/-- A chain starts at a method call, at a call that yields a builder, or at a selection from one. -/
theorem starts?_cases {cursor : Cursor} {reference : Bool}
    (starts : scene.starts? view cursor = some reference) :
    cursor.node.isParen = false ∧
      ((cursor.descend? view scene.decls).isSome = true ∨
        view.isBuilder scene.decls (scene.decls.typeOf cursor.node) = true ∨
        ∃ head x sel selection, cursor.node = .selector head x sel (some selection) ∧
          view.isBuilder scene.decls (some selection.receiver) = true) := by
  obtain ⟨node, path⟩ := cursor
  unfold starts? at starts
  split at starts
  next head callee args spread isCall =>
    cases isCall
    refine ⟨rfl, ?_⟩
    split at starts
    next fits =>
      simp only [Bool.and_eq_true, Bool.or_eq_true] at fits
      rcases fits.1.2 with method | builder
      · refine Or.inl ?_
        unfold callsBuilder at method
        rw [← Node.node_enter callee (.callee head args spread :: path)] at method
        split at method
        next inner x sel selection entered =>
          rcases around : callee.enter (.callee head args spread :: path) with ⟨inside, above⟩
          rw [around] at entered
          cases entered
          simp only [Bool.and_eq_true, decide_eq_true_eq] at method
          simp [Cursor.descend?, around, method.1, method.2]
        next => cases method
      · exact Or.inr (Or.inl (by rwa [Cursor.typeOf_call]))
    next => cases starts
  next head x sel selection isSelector =>
    cases isSelector
    split at starts
    next builder => exact ⟨rfl, Or.inr (Or.inr ⟨head, x, sel, selection, rfl, builder⟩)⟩
    next => cases starts
  next => cases starts

theorem type_root (receiver : Option VarId) (base : SpineEnd) :
    (scene.root receiver base).type = base.type scene.decls := by
  cases base with
  | methodExpr node type method => rfl
  | operand node =>
    simp only [root, SpineEnd.type]
    unfold operandRoot
    cases node <;> simp only <;> (repeat' split) <;> rfl

theorem chain_isBuilder (typed : scene.file.WellTyped scene.decls) {chain : Chain}
    (extracted : chain ∈ scene.chains.runWith view) :
    view.isBuilder scene.decls chain.root.type = true ∧
      ∀ step ∈ chain.steps.dropLast, view.isBuilder scene.decls step.result = true := by
  obtain ⟨cursor, visited, reference, starts, -, rfl⟩ | ⟨steps, root, -⟩ :=
    scene.chain_cases view extracted
  · obtain ⟨plain, begins⟩ := scene.starts?_cases view starts
    obtain ⟨root, steps⟩ := Cursor.outer_spine_isBuilder view typed visited plain begins
    refine ⟨?_, steps⟩
    rw [← scene.type_root cursor.receiver?] at root
    exact root
  · rw [steps]
    exact ⟨root, fun _ member => nomatch member⟩

end Scene

namespace Sample

/-- A library with a builder: `New` yields one, `Done` completes it, and `Put` takes a type argument. -/
def library : Declarations :=
  { packagePaths := ["app", "lib"]
    types := #[
      .declared
        { name := "Builder", package := some 1, underlying := 1, methods := [0, 2], typeParams := [] },
      .literal (.struct (some 1) []),
      .literal (.func { params := [], results := [], variadic := false }),
      .literal (.func { params := [], results := [0], variadic := false }),
      .literal (.interface false [] []),
      .param 4,
      .literal (.basic "int")]
    functions := [
      { name := "Done", package := some 1, type := 2, receiver := some 0, typeParams := [],
        receiverParams := [] },
      { name := "New", package := some 1, type := 3, receiver := none, typeParams := [],
        receiverParams := [] },
      { name := "Put", package := some 1, type := 2, receiver := some 0, typeParams := [5],
        receiverParams := [] }] }

/-- The call `lib.New()` at a position. -/
def newCall (start : Nat) : Node :=
  .call ⟨start, start + 9, some (.plain 0)⟩
    (.selector ⟨start, start + 7, some (.plain 3)⟩ (.ident ⟨⟨start, start + 3, none⟩, "lib", none, none⟩)
      ⟨⟨start + 4, start + 7, none⟩, "New", some 1, none⟩ none) [] false

/-- The call `lib.New().Done()` at a position. -/
def doneCall (start : Nat) : Node :=
  .call ⟨start, start + 16, none⟩
    (.selector ⟨start, start + 14, some (.plain 2)⟩ (newCall start)
      ⟨⟨start + 10, start + 14, none⟩, "Done", some 0, none⟩
      (some { kind := .methodValue, receiver := .plain 0, method := some 0 })) [] false

/-- The call `lib.New().Put[int]()` at a position. -/
def putCall (start : Nat) : Node :=
  .call ⟨start, start + 20, none⟩
    (.index ⟨start, start + 18, some (.plain 2)⟩
      (.selector ⟨start, start + 13, some (.plain 2)⟩ (newCall start)
        ⟨⟨start + 10, start + 13, none⟩, "Put", some 2, none⟩
        (some { kind := .methodValue, receiver := .plain 0, method := some 2 }))
      (.typeExpr ⟨start + 14, start + 17, some (.plain 6)⟩)) [] false

def fileOf (calls : List Node) : SourceFile :=
  { packageName := "app"
    start := 0
    stop := 60
    lines := LineTable.ofStarts? 60 [0]
    comments := []
    doc := []
    decls := [.funcDecl ⟨12, 59, none⟩ none [] none
      (some (.other ⟨24, 59, none⟩ .blockStmt
        (calls.map fun call => .discard call.head .expression call)))] }

def packageOf (file : SourceFile) : Package := { imports := [1], scope := [], files := [file] }

/-- The library has handed on the markers of its functions. -/
def inputOf (file : SourceFile) : IndexInput :=
  { program :=
      { decls := library
        packages := [packageOf file, { imports := [], scope := [], files := [] }] }
    package := 0
    rules := .none
    handedOn :=
      [(0, { kind := .terminal, message := [] }), (1, { kind := .entryPoint, message := [] })]
    order := .asFound }

example :
    let file := fileOf [newCall 25, doneCall 40]
    let built := (inputOf file).build
    ((built.index.run (Scene.chains { markers := built.index.markers, file }) built.memo).1.map
      fun chain => chain.steps.length) = [0, 1] := by decide +kernel

end Sample

end Fluent
