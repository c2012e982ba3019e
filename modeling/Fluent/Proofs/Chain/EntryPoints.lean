import Fluent.Proofs.Analyzer.Account
import Fluent.Proofs.Chain.Callee
import Fluent.Proofs.Chain.Partition

/-! Entry points and the chains that account for them.

The name of an entry point belongs to a call or to none. If it is called, the call is the root of
one chain, unless the chain is lost because a method further up is called with explicit type
arguments. If it is not called, a chain consists of the reference to it. -/

set_option autoImplicit false

namespace Fluent

open Inquiry (View)

namespace Cursor

variable (view : View) (decls : Declarations)

theorem trail_ne_nil (cursor : Cursor) : cursor.trail view decls ≠ [] :=
  List.ne_nil_of_mem (self_mem_trail view decls cursor)

/-- Where a descent ends. -/
def foot (cursor : Cursor) : Cursor :=
  (cursor.trail view decls).getLast (trail_ne_nil view decls cursor)

theorem foot_mem_trail (cursor : Cursor) : cursor.foot view decls ∈ cursor.trail view decls :=
  List.getLast_mem _

theorem foot_of_descend? {cursor next : Cursor} {step : Step}
    (goes : cursor.descend? view decls = some (next, step)) :
    cursor.foot view decls = next.foot view decls := by
  simp only [foot, trail_of_descend? view decls goes]
  exact List.getLast_cons (trail_ne_nil view decls next)

theorem foot_of_end {cursor : Cursor} (ends : cursor.descend? view decls = none) :
    cursor.foot view decls = cursor := by
  simp only [foot, trail_of_end view decls ends, List.getLast_singleton]

theorem foot_of_mem_trail {cursor : Cursor} :
    ∀ position ∈ cursor.trail view decls, position.foot view decls = cursor.foot view decls :=
  trail_induction view decls (fun position => position.foot view decls = cursor.foot view decls)
    (fun _ _ _ goes same => (foot_of_descend? view decls goes).symm.trans same) rfl

/-- The position where a descent ends makes the end of the spine. -/
theorem base_spineBy (cursor : Cursor) (plain : cursor.node.isParen = false) :
    (cursor.node.spineBy view decls).base = (ending view decls (cursor.foot view decls).node).base := by
  fun_induction trail view decls cursor with
  | case1 cursor next step goes ih =>
    rw [spineBy_of_descend? view decls goes, foot_of_descend? view decls goes]
    exact ih (isParen_of_descend? view decls goes)
  | case2 cursor ends => rw [spineBy_of_end view decls ends plain, foot_of_end view decls ends]

end Cursor

namespace Node

variable {decls : Declarations} {func : FuncId}

/-- A call of what stands for a function is where a descent ends. -/
theorem StandsFor.descend?_call {callee : Node} (stands : callee.StandsFor decls func) (view : View)
    (head : Head) (args : List Node) (spread : Bool) (path : List Frame) :
    (⟨.call head callee args spread, path⟩ : Cursor).descend? view decls = none := by
  unfold Cursor.descend?
  simp only
  split
  next inner x sel selection above entered =>
    have inside := Node.node_enter callee (.callee head args spread :: path)
    rw [entered] at inside
    exact (stands.plain _ _ _ _ inside.symm).elim
  next => rfl

theorem StandsFor.isType_eq {node : Node} (stands : node.StandsFor decls func) : node.isType = false := by
  have called := stands.called
  cases node with
  | typeExpr head => cases called
  | _ => rfl

end Node

/-- The expression that a chain starts from. -/
def SpineEnd.node : SpineEnd → Node
  | .operand node => node
  | .methodExpr node _ _ => node

theorem Cursor.node_base_ending (view : View) (decls : Declarations) (node : Node) :
    (Cursor.ending view decls node).base.node = node := by
  obtain same | ⟨_, _, _, _, _, _, same⟩ := Cursor.ending_cases view decls node
  · rw [same]
    rfl
  · rw [same]
    rfl

namespace Scene

variable (scene : Scene) (view : View)

/-- No chain starts at the name or the instantiation of a function. -/
theorem starts?_of_standsFor {decls : Declarations} {func : FuncId} {cursor : Cursor}
    (stands : cursor.node.StandsFor decls func) : scene.starts? view cursor = none := by
  obtain ⟨node, path⟩ := cursor
  have called := stands.called
  cases node with
  | call head callee args spread => cases called
  | selector head x sel selection =>
    cases selection with
    | none => rfl
    | some selection => exact (stands.plain head x sel selection rfl).elim
  | _ => rfl

/-- The chain of an entry point that is not called. -/
def referenceTo (cursor : Cursor) (func : FuncId) (message : Text.Bytes) : Chain :=
  scene.finish (scene.decls.instantiated cursor)
    { kind := .reference, expr := (scene.decls.instantiated cursor).node.ref,
      type := scene.decls.resultOf? (.plain func), func := some func, message }
    [] true

theorem mention_eq (cursor : Cursor) :
    scene.mention cursor = scene.entryReference cursor cursor.node.mentioned? := by
  obtain ⟨node, path⟩ := cursor
  cases node with
  | selector head x sel selection => cases selection <;> rfl
  | _ => rfl

theorem runWith_mention_eq_some_iff {cursor : Cursor} {chain : Chain} :
    (scene.mention cursor).runWith view = some chain ↔
      ∃ func message, cursor.node.mentioned? = some func ∧
        scene.markers.entryPoint? func = some message ∧ scene.decls.isCalled cursor = false ∧
        view.isBuilder scene.decls (scene.decls.resultOf? (.plain func)) = true ∧
        chain = scene.referenceTo cursor func message := by
  rw [mention_eq]
  cases mentions : cursor.node.mentioned? with
  | none => simp [entryReference]
  | some func =>
    cases marked : scene.markers.entryPoint? func with
    | none => simp [entryReference, message?, marked]
    | some message =>
      simp only [entryReference, message?, Option.bind_some, marked, Inquiry.runWith_ite,
        Inquiry.runWith_bind, Inquiry.runWith_pure, Inquiry.runWith_isBuilder]
      cases called : scene.decls.isCalled cursor <;>
        cases builder : view.isBuilder scene.decls (scene.decls.resultOf? (.plain func)) <;>
        simp [marked, builder, referenceTo, @eq_comm _ chain]

/-- The chain that extraction collects at a position. -/
def emitted (cursor : Cursor) : Option Chain := (scene.chain? cursor).runWith view

/-- The position of the root of the chain that is collected at another one. -/
def rootPosition (cursor : Cursor) : Cursor :=
  if (scene.starts? view cursor).isSome then cursor.foot view scene.decls
  else scene.decls.instantiated cursor

theorem expr_root (receiver : Option VarId) (base : SpineEnd) :
    (scene.root receiver base).expr = base.node.ref := by
  cases base with
  | methodExpr node type method => rfl
  | operand node =>
    simp only [root, SpineEnd.node]
    unfold operandRoot
    cases node <;> simp only <;> (repeat' split) <;> rfl

theorem emitted_eq_some_iff {cursor : Cursor} {chain : Chain} :
    scene.emitted view cursor = some chain ↔
      (∃ reference, scene.starts? view cursor = some reference ∧
        scene.keeps view (scene.rootAt view cursor) (scene.stepsAt view cursor) = true ∧
        chain = scene.finish cursor (scene.rootAt view cursor) (scene.stepsAt view cursor) reference) ∨
      (scene.starts? view cursor = none ∧ (scene.mention cursor).runWith view = some chain) := by
  rw [emitted, runWith_chain?]
  cases scene.starts? view cursor with
  | none => simp
  | some reference => simp [runWith_chainAt, @eq_comm _ chain]

/-- The root of a chain is the expression at its position. -/
theorem expr_of_emitted {cursor : Cursor} {chain : Chain} (found : scene.emitted view cursor = some chain) :
    chain.root.expr = (scene.rootPosition view cursor).node.ref := by
  rcases (scene.emitted_eq_some_iff view).mp found with ⟨reference, starts, -, rfl⟩ | ⟨silent, mentioned⟩
  · have base := Cursor.base_spineBy view scene.decls cursor (scene.starts?_cases view starts).1
    simp only [rootPosition, starts, Option.isSome_some, if_true, finish, rootAt, base, expr_root,
      Cursor.node_base_ending]
  · obtain ⟨func, message, -, -, -, -, rfl⟩ := (scene.runWith_mention_eq_some_iff view).mp mentioned
    simp [rootPosition, silent, referenceTo, finish]

/-- A chain is collected at a position, and its root stands at another one. -/
def Roots (root outer : Cursor) : Prop :=
  outer ∈ scene.file.cursors ∧ (scene.emitted view outer).isSome = true ∧
    scene.rootPosition view outer = root

section Accounting

variable (typed : scene.file.WellTyped scene.decls) (named : scene.file.WellNamed scene.decls)
  {mention : Cursor} (visited : mention ∈ scene.file.cursors) {func : FuncId}
  (mentions : mention.node.mentioned? = some func)

include typed named visited mentions

/-- A chain whose root is the name of a function, or its instantiation, is collected at the name. -/
theorem roots_instantiated {outer : Cursor}
    (roots : scene.Roots view (scene.decls.instantiated mention) outer) : outer = mention := by
  obtain ⟨visited', found, same⟩ := roots
  have stands := Node.standsFor_of_mentioned? (named _ visited) mentions
  obtain ⟨-, standing, -⟩ := Cursor.instantiated_standsFor named visited stands
  obtain ⟨chain, found⟩ := Option.isSome_iff_exists.mp found
  rcases (scene.emitted_eq_some_iff view).mp found with ⟨reference, starts, -, -⟩ | ⟨silent, mentioned⟩
  · -- A descent that ended at the function would have started there, or found a builder there.
    simp only [rootPosition, starts, Option.isSome_some, if_true] at same
    have onTrail := Cursor.foot_mem_trail view scene.decls outer
    rw [same] at onTrail
    rcases Cursor.source_of_mem_trail view scene.decls _ onTrail with isOuter | ⟨source, onTrail, step, goes⟩
    · rw [← isOuter, scene.starts?_of_standsFor view standing] at starts
      cases starts
    · have builder := Cursor.receiver_isBuilder view typed
        (Cursor.mem_cursors_of_mem_trail view scene.decls visited' _ onTrail) goes
      have plain := Cursor.isParen_of_descend? view scene.decls goes
      have function := standing.function
      rw [← Node.node_enter _ [], Node.enter_of_plain plain] at function
      rw [scene.decls.not_isBuilder_of_isFunction view function] at builder
      cases builder
  · obtain ⟨other, message, mentions', -⟩ := (scene.runWith_mention_eq_some_iff view).mp mentioned
    simp only [rootPosition, silent, Option.isSome_none, Bool.false_eq_true, if_false] at same
    exact Cursor.instantiated_inj named visited' visited mentions' mentions same

/-- The name of an entry point, or its instantiation, is the root of the chain that is collected at
the name, and of no chain if the entry point is called. -/
theorem roots_instantiated_iff {message : Text.Bytes} (marked : scene.markers.entryPoint? func = some message)
    (result : view.isBuilder scene.decls (scene.decls.resultOf? (.plain func)) = true) {outer : Cursor} :
    scene.Roots view (scene.decls.instantiated mention) outer ↔
      outer = mention ∧ mention.call? = none := by
  have stands := Node.standsFor_of_mentioned? (named _ visited) mentions
  have silent := scene.starts?_of_standsFor view stands
  have called := Cursor.isCalled_eq named visited stands
  constructor
  · intro roots
    obtain rfl := scene.roots_instantiated view typed named visited mentions roots
    obtain ⟨chain, found⟩ := Option.isSome_iff_exists.mp roots.2.1
    rcases (scene.emitted_eq_some_iff view).mp found with ⟨reference, starts, -⟩ | ⟨-, mentioned⟩
    · rw [silent] at starts
      cases starts
    · obtain ⟨_, _, _, _, uncalled, _⟩ := (scene.runWith_mention_eq_some_iff view).mp mentioned
      exact ⟨rfl, by simpa [called] using uncalled⟩
  · rintro ⟨rfl, uncalled⟩
    rw [uncalled] at called
    have mentioned := (scene.runWith_mention_eq_some_iff view).mpr
      ⟨func, message, mentions, marked, called, result, rfl⟩
    refine ⟨visited, Option.isSome_iff_exists.mpr
      ⟨_, (scene.emitted_eq_some_iff view).mpr (Or.inr ⟨silent, mentioned⟩)⟩, ?_⟩
    simp [rootPosition, silent]

omit typed in
theorem root_of_emitted_mention {message : Text.Bytes}
    (marked : scene.markers.entryPoint? func = some message) {chain : Chain}
    (found : scene.emitted view mention = some chain) :
    chain.root.kind = .reference ∧ chain.root.func = some func ∧ chain.root.message = message ∧
      chain.context.usage = .reference := by
  have silent := scene.starts?_of_standsFor view (Node.standsFor_of_mentioned? (named _ visited) mentions)
  rcases (scene.emitted_eq_some_iff view).mp found with ⟨reference, starts, -⟩ | ⟨-, mentioned⟩
  · rw [silent] at starts
    cases starts
  · obtain ⟨other, text, mentions', marked', -, -, rfl⟩ :=
      (scene.runWith_mention_eq_some_iff view).mp mentioned
    cases mentions.symm.trans mentions'
    cases marked.symm.trans marked'
    exact ⟨rfl, rfl, rfl, rfl⟩

end Accounting

theorem keeps_of_entryPoint {root : Root} (kind : root.kind = .entryPoint) (steps : List Step) :
    scene.keeps view root steps = true := by
  simp [keeps, isChain, kind]

section Calling

variable {func : FuncId} {message : Text.Bytes} (marked : scene.markers.entryPoint? func = some message)
  {call : Cursor} {head : Head} {callee : Node} {args : List Node} {spread : Bool}
  (isCall : call.node = .call head callee args spread) (stands : callee.StandsFor scene.decls func)

include isCall stands

theorem foot_eq_call {outer : Cursor} (onTrail : call ∈ outer.trail view scene.decls) :
    outer.foot view scene.decls = call := by
  rw [← Cursor.foot_of_mem_trail view scene.decls _ onTrail]
  obtain ⟨node, path⟩ := call
  cases isCall
  exact Cursor.foot_of_end view scene.decls (stands.descend?_call view head args spread path)

include marked

/-- The root of a descent that comes to the call of an entry point. -/
theorem rootAt_of_call {outer : Cursor} (plain : outer.node.isParen = false)
    (onTrail : call ∈ outer.trail view scene.decls) :
    (scene.rootAt view outer).kind = .entryPoint ∧ (scene.rootAt view outer).func = some func ∧
      (scene.rootAt view outer).message = message := by
  have base := Cursor.base_spineBy view scene.decls outer plain
  rw [scene.foot_eq_call view isCall stands onTrail, isCall] at base
  simp [rootAt, base, Cursor.ending, Spine.of, root, operandRoot, stands.isType_eq, stands.called,
    message?, marked]

/-- A chain whose root is the call of an entry point is collected where a chain starts and descends to
the call, and it is the chain of the entry point. -/
theorem roots_call_iff (named : scene.file.WellNamed scene.decls) {outer : Cursor} :
    scene.Roots view call outer ↔
      outer ∈ scene.file.cursors ∧ (scene.starts? view outer).isSome = true ∧
        call ∈ outer.trail view scene.decls := by
  constructor
  · rintro ⟨visited, found, same⟩
    obtain ⟨chain, found⟩ := Option.isSome_iff_exists.mp found
    rcases (scene.emitted_eq_some_iff view).mp found with ⟨reference, starts, -, -⟩ | ⟨silent, mentioned⟩
    · simp only [rootPosition, starts, Option.isSome_some, if_true] at same
      exact ⟨visited, by rw [starts]; rfl, same ▸ Cursor.foot_mem_trail view scene.decls outer⟩
    · -- The root of a reference is a function, and no call.
      obtain ⟨other, -, mentions, -⟩ := (scene.runWith_mention_eq_some_iff view).mp mentioned
      obtain ⟨-, standing, -⟩ := Cursor.instantiated_standsFor named visited
        (Node.standsFor_of_mentioned? (named _ visited) mentions)
      simp only [rootPosition, silent, Option.isSome_none, Bool.false_eq_true, if_false] at same
      rw [same, isCall] at standing
      cases standing.called
  · rintro ⟨visited, starts, onTrail⟩
    obtain ⟨reference, starts⟩ := Option.isSome_iff_exists.mp starts
    have plain := (scene.starts?_cases view starts).1
    have kept := scene.keeps_of_entryPoint view
      (scene.rootAt_of_call view marked isCall stands plain onTrail).1 (scene.stepsAt view outer)
    refine ⟨visited, Option.isSome_iff_exists.mpr
      ⟨_, (scene.emitted_eq_some_iff view).mpr (Or.inl ⟨reference, starts, kept, rfl⟩)⟩, ?_⟩
    simp only [rootPosition, starts, Option.isSome_some, if_true]
    exact scene.foot_eq_call view isCall stands onTrail

theorem root_of_roots_call (named : scene.file.WellNamed scene.decls) {outer : Cursor} {chain : Chain}
    (roots : scene.Roots view call outer) (found : scene.emitted view outer = some chain) :
    chain.root.kind = .entryPoint ∧ chain.root.func = some func ∧ chain.root.message = message := by
  obtain ⟨-, starts, onTrail⟩ := (scene.roots_call_iff view marked isCall stands named).mp roots
  rcases (scene.emitted_eq_some_iff view).mp found with ⟨reference, starts, -, rfl⟩ | ⟨silent, -⟩
  · exact scene.rootAt_of_call view marked isCall stands (scene.starts?_cases view starts).1 onTrail
  · rw [silent] at starts
    cases starts

omit marked in
theorem isLink_of_call (builder : view.isBuilder scene.decls (scene.decls.typeOf call.node) = true) :
    scene.isLink view call = true := by
  rw [isCall, Cursor.typeOf_call] at builder
  simp [isLink, isCall, stands.isType_eq, builder]

/-- The call of an entry point that yields a builder is the root of exactly one chain, unless the way
up from it comes to a method that is called with explicit type arguments. -/
theorem existsUnique_roots_call_iff (typed : scene.file.WellTyped scene.decls)
    (named : scene.file.WellNamed scene.decls) (visited : call ∈ scene.file.cursors)
    (builder : view.isBuilder scene.decls (scene.decls.typeOf call.node) = true) :
    (∃! outer, scene.Roots view call outer) ↔
      ¬ ∃ method ∈ scene.file.cursors, scene.isInstantiatedCallee view method = true ∧
        call ∈ method.trail view scene.decls := by
  simp only [scene.roots_call_iff view marked isCall stands named]
  constructor
  · rintro ⟨outer, ⟨isOuter, starts, onTrail⟩, -⟩ ⟨method, isMethod, instantiated, below⟩
    have same := scene.heads_disjoint view typed isOuter isMethod (Or.inl starts) (Or.inr instantiated)
      onTrail below
    rw [same, scene.starts?_of_isInstantiatedCallee view instantiated] at starts
    cases starts
  · intro free
    rcases scene.isLink_cases view typed visited (scene.isLink_of_call view isCall stands builder) with
      ⟨outer, isOuter, starts, onTrail⟩ | stranded
    · exact ⟨outer, ⟨isOuter, starts, onTrail⟩, fun other ⟨isOther, starts', onTrail'⟩ =>
        scene.heads_disjoint view typed isOther isOuter (Or.inl starts') (Or.inl starts) onTrail' onTrail⟩
    · exact (free stranded).elim

end Calling

end Scene

/-- Each use of an entry point whose result is a builder is accounted for. If the name, in parentheses
and with type arguments or not, is the callee of a call, then no chain has the name for its root, and
a chain that has the call for its root is that of the entry point. If the call yields a builder, there is
exactly one such chain, unless the way up from the call comes to a method that is called with explicit
type arguments. If the name is not called, exactly one chain has it for its root, and refers to the
entry point. -/
theorem Index.entry_points_accounted (index : Index) (file : SourceFile)
    (typed : file.WellTyped index.decls) (named : file.WellNamed index.decls) {memo later : Memo} :
    let scene : Scene := { markers := index.markers, file }
    let view := index.view later
    let extraction := index.run scene.chains memo
    later.Extends extraction.2 →
    extraction.1 = file.cursors.filterMap (scene.emitted view) ∧
    (∀ outer chain, scene.emitted view outer = some chain →
      chain.root.expr = (scene.rootPosition view outer).node.ref) ∧
    ∀ mention ∈ file.cursors, ∀ func message, mention.node.mentioned? = some func →
      index.markers.entryPoint? func = some message →
      view.isBuilder index.decls (index.decls.resultOf? (.plain func)) = true →
      match mention.call? with
      | some call =>
        call ∈ file.cursors ∧
        (∀ outer, ¬ scene.Roots view (index.decls.instantiated mention) outer) ∧
        (∀ outer chain, scene.Roots view call outer → scene.emitted view outer = some chain →
          chain.root.kind = .entryPoint ∧ chain.root.func = some func ∧ chain.root.message = message) ∧
        (view.isBuilder index.decls (index.decls.typeOf call.node) = true →
          ((∃! outer, scene.Roots view call outer) ↔
            ¬ ∃ callee ∈ file.cursors, scene.isInstantiatedCallee view callee = true ∧
              call ∈ callee.trail view index.decls))
      | none =>
        (∃! outer, scene.Roots view (index.decls.instantiated mention) outer) ∧
        ∀ outer chain, scene.Roots view (index.decls.instantiated mention) outer →
          scene.emitted view outer = some chain →
          chain.root.kind = .reference ∧ chain.root.func = some func ∧ chain.root.message = message ∧
            chain.context.usage = .reference := by
  intro scene view extraction extended
  have extracted : extraction.1 = scene.chains.runWith view := index.run_eq_runWith _ extended
  refine ⟨extracted.trans (scene.runWith_chainsAt view file.cursors),
    fun outer chain => scene.expr_of_emitted view, ?_⟩
  intro mention visited func message mentions marked result
  have stands := Node.standsFor_of_mentioned? (named _ visited) mentions
  have atName {outer : Cursor} := @Scene.roots_instantiated_iff scene view typed named _ visited _ mentions
    _ marked result outer
  cases isCall : mention.call? with
  | some call =>
    obtain ⟨visited', head, callee, args, spread, node, standing⟩ :=
      Cursor.call?_cases named visited stands isCall
    refine ⟨visited', fun outer roots => ?_, ?_, ?_⟩
    · have uncalled := (atName.mp roots).2
      rw [isCall] at uncalled
      cases uncalled
    · intro outer chain
      exact scene.root_of_roots_call view marked node standing named
    · exact scene.existsUnique_roots_call_iff view marked node standing typed named visited'
  | none =>
    refine ⟨⟨mention, atName.mpr ⟨rfl, isCall⟩, fun outer roots => (atName.mp roots).1⟩, ?_⟩
    intro outer chain roots found
    obtain ⟨rfl, -⟩ := atName.mp roots
    exact scene.root_of_emitted_mention view named visited mentions marked found

namespace Sample

/-- The statements `lib.New().Done()` and `use(lib.New)`. -/
def handing : SourceFile :=
  fileOf [doneCall 25,
    .call ⟨45, 57, none⟩ (.ident ⟨⟨45, 48, none⟩, "use", none, none⟩)
      [.selector ⟨49, 56, some (.plain 3)⟩ (.ident ⟨⟨49, 52, none⟩, "lib", none, none⟩)
        ⟨⟨53, 56, none⟩, "New", some 1, none⟩ none] false]

/-- Is a position the name of the entry point `New`, which yields a builder? -/
def mentionsNew (file : SourceFile) (cursor : Cursor) : Prop :=
  cursor.node.mentioned? = some 1 ∧ (sceneOf file).markers.entryPoint? 1 = some [] ∧
    (viewOf file).isBuilder library (library.resultOf? (.plain 1)) = true

instance (file : SourceFile) (cursor : Cursor) : Decidable (mentionsNew file cursor) :=
  inferInstanceAs (Decidable (_ ∧ _))

/-- In `lib.New().Done()` and `use(lib.New)` the call of `New` is the root of one chain, and so is the
name that is passed. -/
theorem handing_accounted :
    handing.WellTyped library ∧ handing.WellNamed library ∧
      (∃ mention ∈ handing.cursors, mentionsNew handing mention ∧
        ∃ call, mention.call? = some call ∧
          ∃! outer, (sceneOf handing).Roots (viewOf handing) call outer) ∧
      ∃ mention ∈ handing.cursors, mentionsNew handing mention ∧ mention.call? = none ∧
        ∃! outer, (sceneOf handing).Roots (viewOf handing) (library.instantiated mention) outer := by
  have typed : handing.WellTyped library := by decide +kernel
  have named : handing.WellNamed library := by decide +kernel
  obtain ⟨-, -, accounted⟩ := @Index.entry_points_accounted (inputOf handing).build.index handing typed named
    [] _ (Memo.Extends.refl _)
  refine ⟨typed, named, ?_, ?_⟩
  · have called : ∃ mention ∈ handing.cursors, mentionsNew handing mention ∧
        ∃ call ∈ mention.call?, (viewOf handing).isBuilder library (library.typeOf call.node) = true := by
      decide +kernel
    have plain : ∀ callee ∈ handing.cursors,
        (sceneOf handing).isInstantiatedCallee (viewOf handing) callee = false := by decide +kernel
    obtain ⟨mention, visited, mentions, call, isCall, builder⟩ := called
    have account := accounted mention visited 1 [] mentions.1 mentions.2.1 mentions.2.2
    rw [isCall] at account
    refine ⟨mention, visited, mentions, call, isCall, (account.2.2.2 builder).mpr ?_⟩
    rintro ⟨callee, member, instantiated, -⟩
    exact Bool.false_ne_true ((plain callee member).symm.trans instantiated)
  · have passed : ∃ mention ∈ handing.cursors, mentionsNew handing mention ∧
        mention.call?.isNone = true := by decide +kernel
    obtain ⟨mention, visited, mentions, passed⟩ := passed
    have uncalled := Option.isNone_iff_eq_none.mp passed
    have account := accounted mention visited 1 [] mentions.1 mentions.2.1 mentions.2.2
    rw [uncalled] at account
    exact ⟨mention, visited, mentions, uncalled, account.1⟩

/-- In `lib.New().Put[int]()` the entry point `New` is called and yields a builder, but the call is the
root of no chain. -/
theorem instantiating_unaccounted :
    instantiating.WellTyped library ∧ instantiating.WellNamed library ∧
      ∃ mention ∈ instantiating.cursors, mentionsNew instantiating mention ∧
        ∃ call, mention.call? = some call ∧
          (viewOf instantiating).isBuilder library (library.typeOf call.node) = true ∧
          ¬ ∃ outer, (sceneOf instantiating).Roots (viewOf instantiating) call outer := by
  have typed : instantiating.WellTyped library := by decide +kernel
  have named : instantiating.WellNamed library := by decide +kernel
  have called : ∃ mention ∈ instantiating.cursors, mentionsNew instantiating mention ∧
      ∃ call ∈ mention.call?, (viewOf instantiating).isBuilder library (library.typeOf call.node) = true := by
    decide +kernel
  have silent : ∀ outer ∈ instantiating.cursors,
      ((sceneOf instantiating).emitted (viewOf instantiating) outer).isSome = false := by decide +kernel
  obtain ⟨mention, visited, mentions, call, isCall, builder⟩ := called
  refine ⟨typed, named, mention, visited, mentions, call, isCall, builder, ?_⟩
  rintro ⟨outer, member, found, -⟩
  rw [silent outer member] at found
  cases found

end Sample

end Fluent
