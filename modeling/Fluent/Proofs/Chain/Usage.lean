import Fluent.Proofs.Chain.Wrapping

/-! What becomes of the value of a chain.

The value is consumed by the first node around it that neither puts it in parentheses nor
converts it. The usage of a chain tells what this node does with the value, with one exception:
where an element is picked from the value and the element is a function, the index expression is
taken for an instantiation, and the usage may tell what becomes of the element. -/

set_option autoImplicit false

namespace Fluent

/-- The frames around a value from its consumer on. -/
def Cursor.consumers (cursor : Cursor) : List Frame := cursor.path.dropWhile Frame.isWrapper

def Frame.isFunction : Frame → Bool
  | .body _ _ _ _ | .closureBody _ => true
  | _ => false

/-- The parent of a value, which comes first, consumes the value in some way. -/
inductive ConsumedBy : List Frame → Usage → Prop where
  | discarded {head : Head} {how : Discard} {above : List Frame} :
      ConsumedBy (.discarded head how :: above) .statement
  | blankTarget {head : Head} {targets before after : List Node} {above : List Frame} {target : Node}
      (paired : targets.length = before.length + 1 + after.length)
      (found : targets[before.length]? = some target) (blank : target.isBlank = true) :
      ConsumedBy (.assigned head targets before after :: above) .statement
  | target {head : Head} {targets before after : List Node} {above : List Frame} {target : Node}
      (paired : targets.length = before.length + 1 + after.length)
      (found : targets[before.length]? = some target) (kept : target.isBlank = false) :
      ConsumedBy (.assigned head targets before after :: above) .assignment
  | blankName {head : Head} {names before after : List Node} {type : Option Node}
      {above : List Frame} {name : Node}
      (found : names[before.length]? = some name) (blank : name.isBlank = true) :
      ConsumedBy (.specValue head names type before after :: above) .statement
  | name {head : Head} {names before after : List Node} {type : Option Node}
      {above : List Frame} {name : Node}
      (found : names[before.length]? = some name) (kept : name.isBlank = false) :
      ConsumedBy (.specValue head names type before after :: above) .assignment
  | element {head : Head} {type : Option Node} {before after : List Node} {above : List Frame} :
      ConsumedBy (.element head type before after :: above) .assignment
  | key {head : Head} {value : Node} {above : List Frame} :
      ConsumedBy (.key head value :: above) .assignment
  | value {head : Head} {key : Node} {above : List Frame} :
      ConsumedBy (.value head key :: above) .assignment
  | sent {head : Head} {channel : Node} {above : List Frame} :
      ConsumedBy (.sent head channel :: above) .assignment
  | argument {head : Head} {callee : Node} {before after : List Node} {spread : Bool}
      {above : List Frame} :
      ConsumedBy (.argument head callee before after spread :: above) .argument
  | result {head : Head} {before after : List Node} {above : List Frame} {around : Head}
      {declares : Option FuncId} {doc : CommentGroup} {receiver : Option VarId}
      (innermost : above.find? Frame.isFunction = some (.body around declares doc receiver)) :
      ConsumedBy (.returned head before after :: above) .returned
  | literalResult {head : Head} {before after : List Node} {above : List Frame} {around : Head}
      (innermost : above.find? Frame.isFunction = some (.closureBody around)) :
      ConsumedBy (.returned head before after :: above) .closure

/-- A usage tells what becomes of a value: it is `other` unless the value is consumed in the way that
the usage says. -/
def Usage.Tells (usage : Usage) (path : List Frame) : Prop :=
  ∀ way, way ≠ .other → (usage = way ↔ ConsumedBy path way)

namespace Declarations

variable (decls : Declarations)

theorem enclosingSignature?_eq (path : List Frame) :
    (decls.enclosingSignature? path).map Prod.fst =
      (path.find? Frame.isFunction).map fun
        | .closureBody _ => .closure
        | _ => .returned := by
  induction path with
  | nil => rfl
  | cons frame path ih =>
    cases frame with
    | body head declares doc receiver => rfl
    | closureBody head => rfl
    | _ => exact ih

theorem usage_returnContext (path : List Frame) (node : NodeRef) (number count : Nat) :
    (decls.returnContext path node number count).usage =
      ((decls.enclosingSignature? path).map Prod.fst).getD .other := by
  unfold returnContext
  cases decls.enclosingSignature? path with
  | none => rfl
  | some found => rfl

theorem usage_storedContext (targets : List Node) (number : Nat) (node : NodeRef) :
    (decls.storedContext targets number node).usage =
      match targets[number]? with
      | none => .other
      | some target => if target.isBlank then .statement else .assignment := by
  unfold storedContext
  cases targets[number]? with
  | none => rfl
  | some target => cases blank : target.isBlank <;> simp [blank]

theorem usage_of_consumed (outside : NodeRef) {path : List Frame} {usage : Usage}
    (consumed : ConsumedBy path usage) : (decls.parentContext outside path).usage = usage := by
  cases consumed with
  | blankTarget paired found blank => simp [parentContext, paired, usage_storedContext, found, blank]
  | target paired found kept => simp [parentContext, paired, usage_storedContext, found, kept]
  | blankName found blank => simp [parentContext, usage_storedContext, found, blank]
  | name found kept => simp [parentContext, usage_storedContext, found, kept]
  | result innermost =>
    simp [parentContext, usage_returnContext, enclosingSignature?_eq, innermost]
  | literalResult innermost =>
    simp [parentContext, usage_returnContext, enclosingSignature?_eq, innermost]
  | _ => rfl

theorem consumed_of_usage (outside : NodeRef) (path : List Frame) :
    (decls.parentContext outside path).usage = .other ∨
      ConsumedBy path (decls.parentContext outside path).usage := by
  have settled {path : List Frame} {way : Usage} (consumed : ConsumedBy path way) :
      (decls.parentContext outside path).usage = .other ∨
        ConsumedBy path (decls.parentContext outside path).usage :=
    Or.inr (by rwa [decls.usage_of_consumed outside consumed])
  cases path with
  | nil => exact Or.inl rfl
  | cons frame above =>
    cases frame with
    | discarded head how => exact settled .discarded
    | element head type before after => exact settled .element
    | key head value => exact settled .key
    | value head key => exact settled .value
    | sent head channel => exact settled .sent
    | argument head callee before after spread => exact settled .argument
    | assigned head targets before after =>
      by_cases paired : targets.length = before.length + 1 + after.length
      · cases found : targets[before.length]? with
        | none => exact Or.inl (by simp [parentContext, paired, usage_storedContext, found])
        | some target =>
          cases blank : target.isBlank with
          | true => exact settled (.blankTarget paired found blank)
          | false => exact settled (.target paired found blank)
      · exact Or.inl (by simp [parentContext, paired])
    | specValue head names type before after =>
      cases found : names[before.length]? with
      | none => exact Or.inl (by simp [parentContext, usage_storedContext, found])
      | some name =>
        cases blank : name.isBlank with
        | true => exact settled (.blankName found blank)
        | false => exact settled (.name found blank)
    | returned head before after =>
      cases innermost : above.find? Frame.isFunction with
      | none =>
        exact Or.inl (by simp [parentContext, usage_returnContext, enclosingSignature?_eq, innermost])
      | some function =>
        have isFunction := List.find?_some innermost
        cases function with
        | body around declares doc receiver => exact settled (.result innermost)
        | closureBody around => exact settled (.literalResult innermost)
        | _ => cases isFunction
    | _ => exact Or.inl rfl

theorem tells_parentContext (outside : NodeRef) (path : List Frame) :
    (decls.parentContext outside path).usage.Tells path := by
  intro way consuming
  refine ⟨?_, decls.usage_of_consumed outside⟩
  rintro rfl
  exact (decls.consumed_of_usage outside path).resolve_left consuming

/-- Is a value indexed with a function for its result? -/
def picksFunction : List Frame → Bool
  | frame :: _ => decls.isInstantiation frame
  | [] => false

/-- The way out of an expression ends below its consumer, unless a function is picked there. -/
theorem path_transparentFrom_eq (node : Node) {path : List Frame}
    (plain : decls.picksFunction (path.dropWhile Frame.isWrapper) = false) :
    (decls.transparentFrom false node path).path = path.dropWhile Frame.isWrapper := by
  induction path generalizing node with
  | nil => rfl
  | cons frame path ih =>
    cases wraps : frame.isWrapper with
    | true =>
      rw [List.dropWhile_cons_of_pos wraps] at plain ⊢
      rw [decls.transparentFrom_wrapper wraps]
      exact ih _ plain
    | false =>
      rw [List.dropWhile_cons_of_neg (by simp [wraps])] at plain ⊢
      obtain ⟨notParen, notConversion⟩ := Bool.or_eq_false_iff.mp wraps
      have notInstantiation : decls.isInstantiation frame = false := plain
      simp [transparentFrom, notParen, notConversion, notInstantiation]

/-- Nothing that is indexed is consumed by the index expression. -/
theorem not_consumed_of_picksFunction {path : List Frame} (picks : decls.picksFunction path = true)
    (usage : Usage) : ¬ ConsumedBy path usage := by
  intro consumed
  cases consumed <;> cases picks

/-- The usage in the context of an expression tells what becomes of its value, unless a function is
picked from the value and the usage is not `other`. -/
theorem tells_classify_iff (outside : NodeRef) (cursor : Cursor) :
    (decls.classify outside cursor).usage.Tells cursor.consumers ↔
      (decls.picksFunction cursor.consumers = true → (decls.classify outside cursor).usage = .other) := by
  constructor
  · intro tells picks
    refine Decidable.byContradiction fun consuming => ?_
    exact decls.not_consumed_of_picksFunction picks _ ((tells _ consuming).mp rfl)
  · intro spared
    cases picks : decls.picksFunction cursor.consumers with
    | true =>
      intro way consuming
      rw [spared picks]
      exact ⟨fun same => (consuming same.symm).elim,
        fun consumed => (decls.not_consumed_of_picksFunction picks way consumed).elim⟩
    | false =>
      have ends : (decls.transparent cursor).path = cursor.consumers :=
        decls.path_transparentFrom_eq cursor.node picks
      rw [classify, ends]
      exact decls.tells_parentContext outside cursor.consumers

end Declarations

/-- A chain that is no reference to a function comes from a position with its outermost expression,
and its usage tells what becomes of the value there: it names the way in which the first node around
the value consumes it, parentheses and conversions apart, and is `other` if there is no such way. The
only exception is a value from which a function is picked, and only if the usage is not `other`. -/
theorem Index.usage_tells_iff (index : Index) (file : SourceFile) {memo later : Memo} :
    let scene : Scene := { markers := index.markers, file }
    let view := index.view later
    let extraction := index.run scene.chains memo
    later.Extends extraction.2 →
    ∀ chain ∈ extraction.1, chain.context.usage ≠ .reference →
      ∃ outer ∈ file.cursors, scene.starts? view outer = some false ∧
        chain = scene.finish outer (scene.rootAt view outer) (scene.stepsAt view outer) false ∧
        (chain.context.usage.Tells outer.consumers ↔
          (index.decls.picksFunction outer.consumers = true → chain.context.usage = .other)) := by
  intro scene view extraction extended chain extracted plain
  have answers : extraction.1 = scene.chains.runWith view := index.run_eq_runWith _ extended
  rw [answers] at extracted
  obtain ⟨outer, visited, reference, starts, -, rfl⟩ | ⟨-, -, mentioned⟩ :=
    scene.chain_cases view extracted
  · cases reference with
    | true => exact (plain rfl).elim
    | false => exact ⟨outer, visited, starts, rfl, index.decls.tells_classify_iff file.ref outer⟩
  · exact (plain mentioned).elim

namespace Sample

/-- The chains of a file. -/
def extracted (input : IndexInput) (file : SourceFile) : List Chain :=
  (input.build.index.run (Scene.chains { markers := input.build.index.markers, file }) []).1

/-- The statement `(lib.New())`. -/
def parenthesized : SourceFile := fileOf [.paren ⟨25, 36, some (.plain 0)⟩ (newCall 26)]

/-- The call in `(lib.New())` is used as a statement, for a statement discards its value. -/
theorem parenthesized_discarded :
    ∃ chain ∈ extracted (inputOf parenthesized) parenthesized, chain.context.usage = .statement ∧
      ∃ outer ∈ parenthesized.cursors, outer.node.ref = chain.outer ∧
        ConsumedBy outer.consumers .statement := by
  have used : .statement ∈
      (extracted (inputOf parenthesized) parenthesized).map fun chain => chain.context.usage := by
    decide +kernel
  have plain : ∀ outer ∈ parenthesized.cursors, library.picksFunction outer.consumers = false := by
    decide +kernel
  obtain ⟨chain, member, usage⟩ := List.mem_map.mp used
  obtain ⟨outer, visited, -, finished, tells⟩ := Index.usage_tells_iff (inputOf parenthesized).build.index
    parenthesized (Memo.Extends.refl _) chain member (by rw [usage]; decide)
  have position : outer.node.ref = chain.outer := by rw [finished]; rfl
  refine ⟨chain, member, usage, outer, visited, position, ?_⟩
  have told := tells.mpr fun picks => by
    rw [show (inputOf parenthesized).build.index.decls = library from rfl, plain outer visited] at picks
    cases picks
  exact (told .statement (by decide)).mp usage

/-- A library whose builder is a list of functions: `New` yields one, and `Done` completes it. -/
def registry : Declarations :=
  { packagePaths := ["app", "lib"]
    types := #[
      .declared
        { name := "Handlers", package := some 1, underlying := 1, methods := [0], typeParams := [] },
      .literal (.slice 2),
      .literal (.func { params := [], results := [], variadic := false }),
      .literal (.func { params := [], results := [0], variadic := false }),
      .literal (.func { params := [2], results := [], variadic := false }),
      .literal (.basic "int")]
    functions := [
      { name := "Done", package := some 1, type := 2, receiver := some 0, typeParams := [],
        receiverParams := [] },
      { name := "New", package := some 1, type := 3, receiver := none, typeParams := [],
        receiverParams := [] },
      { name := "take", package := some 0, type := 4, receiver := none, typeParams := [],
        receiverParams := [] }] }

/-- The call `take(lib.New()[0])`. -/
def picking : SourceFile :=
  fileOf [.call ⟨25, 43, none⟩ (.ident ⟨⟨25, 29, some (.plain 4)⟩, "take", some 2, none⟩)
    [.index ⟨30, 42, some (.plain 2)⟩ (newCall 30) (.other ⟨40, 41, some (.plain 5)⟩ .basicLit [])] false]

def pickingInput : IndexInput :=
  { inputOf picking with
    program :=
      { decls := registry
        packages := [packageOf picking, { imports := [], scope := [], files := [] }] } }

/-- In `take(lib.New()[0])` the builder is not passed, but a function out of it. The usage of the
builder's chain is that of an argument all the same. -/
theorem picked_function_passed :
    picking.WellTyped registry ∧
      ∃ chain ∈ extracted pickingInput picking, chain.context.usage = .argument ∧
        ∀ outer ∈ picking.cursors, outer.node.ref = chain.outer →
          registry.picksFunction outer.consumers = true ∧ ¬ ConsumedBy outer.consumers .argument := by
  have typed : picking.WellTyped registry := by decide +kernel
  have used : (.argument, ⟨.callExpr, 30, 39⟩) ∈
      (extracted pickingInput picking).map fun chain => (chain.context.usage, chain.outer) := by
    decide +kernel
  have picks : ∀ outer ∈ picking.cursors, outer.node.ref = ⟨.callExpr, 30, 39⟩ →
      registry.picksFunction outer.consumers = true := by
    decide +kernel
  obtain ⟨chain, member, same⟩ := List.mem_map.mp used
  obtain ⟨usage, position⟩ := Prod.mk.inj same
  refine ⟨typed, chain, member, usage, fun outer visited isOuter => ?_⟩
  have picked := picks outer visited (isOuter.trans position)
  exact ⟨picked, registry.not_consumed_of_picksFunction picked .argument⟩

end Sample

end Fluent
