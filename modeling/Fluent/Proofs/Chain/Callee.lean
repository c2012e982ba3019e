import Fluent.Proofs.Chain.Ascent

/-! Names of functions, and the calls that they are the callees of.

Whether a function is called is found out on the way up from its name, and which function
a call calls on the way down from the call. In a file whose functions are well named the two
agree: on the way up there are parentheses, and at most once type arguments. -/

set_option autoImplicit false

namespace Fluent

open Inquiry (View)

namespace Frame

/-- Is the child what the parent indexes? -/
def isIndexing : Frame → Bool
  | .indexBase _ _ | .indexListBase _ _ => true
  | _ => false

/-- Does the parent give type arguments to the child? -/
def givesTypes : Frame → Bool
  | .indexBase _ i => i.isType
  | .indexListBase _ _ => true
  | _ => false

theorem isIndexing_of_isInstantiation {decls : Declarations} {frame : Frame}
    (instantiates : decls.isInstantiation frame = true) : frame.isIndexing = true := by
  cases frame with
  | indexBase head i => rfl
  | indexListBase head indices => rfl
  | _ => cases instantiates

theorem isIndexing_of_givesTypes {frame : Frame} (gives : frame.givesTypes = true) :
    frame.isIndexing = true := by
  cases frame with
  | indexBase head i => rfl
  | indexListBase head indices => rfl
  | _ => cases gives

theorem isCallee_of_isIndexing {frame : Frame} (indexing : frame.isIndexing = true) :
    frame.isCallee = false := by
  cases frame with
  | callee head args spread => cases indexing
  | _ => rfl

end Frame

/-- The call of the expression at a position. Parentheses around the expression do not count, nor do
type arguments that it is given. -/
def Cursor.callFrom? (node : Node) : List Frame → Option Cursor
  | [] => none
  | frame :: path =>
    if frame.isCallee then some ⟨frame.plug node, path⟩
    else if frame.isParen || frame.givesTypes then callFrom? (frame.plug node) path
    else none

def Cursor.call? (cursor : Cursor) : Option Cursor := callFrom? cursor.node cursor.path

namespace Node

/-- The function that a name refers to, qualified by a package or not. -/
def mentioned? : Node → Option FuncId
  | .ident id => id.use
  | .selector _ _ sel none => sel.use
  | _ => none

def isName : Node → Bool
  | .ident _ | .selector _ _ _ _ => true
  | _ => false

/-- What is indexed makes no name, and stands in no parentheses. -/
theorem isName_plug {frame : Frame} (indexing : frame.isIndexing = true) (node : Node) :
    (frame.plug node).isName = false ∧ (frame.plug node).unparen = frame.plug node := by
  cases frame with
  | indexBase head i => exact ⟨rfl, rfl⟩
  | indexListBase head indices => exact ⟨rfl, rfl⟩
  | _ => cases indexing

end Node

namespace Declarations

variable {decls : Declarations}

def isFunction (decls : Declarations) (node : Node) : Bool :=
  ((decls.typeOf node).bind decls.signature?).isSome

theorem shape_of_signature? {type : Ty} (function : (decls.signature? type).isSome = true) :
    ∃ signature, decls.shape type = .func signature := by
  unfold signature? at function
  split at function
  case h_2 => cases function
  next written known =>
    have entry : (decls.restrict type).entry = type.entry := by
      unfold restrict
      split <;> rfl
    have resolved : decls.resolve type = decls.restrict type := by
      simp only [resolve, depthBound, resolveWithin, known]
    exact ⟨written.onParts fun entry => { decls.restrict type with entry }, by
      simp only [shape, resolved, entry, known, Shape.onParts]⟩

/-- A function is no builder. -/
theorem not_isBuilder_of_isFunction (view : View) {node : Node} (function : decls.isFunction node = true) :
    view.isBuilder decls (decls.typeOf node) = false := by
  apply view.isBuilder_of_base_eq_none
  unfold isFunction at function
  cases known : decls.typeOf node with
  | none => rfl
  | some type =>
    rw [known] at function
    obtain ⟨signature, shape⟩ := decls.shape_of_signature? function
    simp only [Option.bind_some, base?, deref, shape]

end Declarations

/-- The name of a function has the type of a function. Of all functions only those that are named are
indexed, with types, and that gives functions. -/
def Node.WellNamed (decls : Declarations) : Node → Prop
  | .ident id => id.use.isSome = true → decls.isFunction (.ident id) = true
  | .selector head x sel none =>
    sel.use.isSome = true → decls.isFunction (.selector head x sel none) = true
  | .index head x i =>
    decls.isFunction x.unparen = true →
      x.unparen.isName = true ∧ i.isType = true ∧ decls.isFunction (.index head x i) = true
  | .indexList head x indices =>
    decls.isFunction x.unparen = true →
      x.unparen.isName = true ∧ decls.isFunction (.indexList head x indices) = true
  | _ => True

instance (decls : Declarations) : (node : Node) → Decidable (node.WellNamed decls)
  | .ident _ | .selector _ _ _ none | .index _ _ _ | .indexList _ _ _ =>
    inferInstanceAs (Decidable (_ → _))
  | .selector _ _ _ (some _) | .typeExpr _ | .paren _ _ | .call _ _ _ _ | .composite _ _ _
  | .unary _ _ _ | .keyValue _ _ _ | .funcLit _ _ | .discard _ _ _ | .send _ _ _ | .assign _ _ _
  | .ret _ _ | .valueSpec _ _ _ _ | .typeSpec _ _ | .genDecl _ _ _ | .funcDecl _ _ _ _ _
  | .other _ _ _ => .isTrue trivial

def SourceFile.WellNamed (file : SourceFile) (decls : Declarations) : Prop :=
  ∀ cursor ∈ file.cursors, cursor.node.WellNamed decls

instance (file : SourceFile) (decls : Declarations) : Decidable (file.WellNamed decls) :=
  inferInstanceAs (Decidable (∀ cursor ∈ file.cursors, cursor.node.WellNamed decls))

/-- A node stands for a function that a name refers to: it is the name, or the name in parentheses or
with type arguments. -/
structure Node.StandsFor (decls : Declarations) (func : FuncId) (node : Node) : Prop where
  called : node.calledFunction? = some func
  function : decls.isFunction node.unparen = true
  /-- The name is not that of a method. -/
  plain : ∀ head x sel selection, node.unparen ≠ .selector head x sel (some selection)

namespace Node

variable {decls : Declarations} {func : FuncId}

theorem standsFor_of_mentioned? {node : Node} (named : node.WellNamed decls)
    (mentioned : node.mentioned? = some func) : node.StandsFor decls func := by
  unfold mentioned? at mentioned
  split at mentioned
  next id => exact ⟨mentioned, named (by rw [mentioned]; rfl), fun _ _ _ _ same => nomatch same⟩
  next head x sel =>
    refine ⟨mentioned, named (by rw [mentioned]; rfl), fun _ _ _ _ same => ?_⟩
    simp [unparen] at same
  next => cases mentioned

theorem isName_of_mentioned? {node : Node} (mentioned : node.mentioned? = some func) :
    node.isName = true := by
  unfold mentioned? at mentioned
  split at mentioned
  next => rfl
  next => rfl
  next => cases mentioned

theorem calledFunction?_of_isName {node : Node} (name : node.unparen.isName = true) :
    node.calledFunction? =
      match node.unparen with
      | .ident id => id.use
      | .selector _ _ sel _ => sel.use
      | _ => none := by
  unfold calledFunction?
  cases inside : node.unparen <;> simp_all [isName]

theorem StandsFor.paren {node : Node} (stands : node.StandsFor decls func) (head : Head) :
    (Node.paren head node).StandsFor decls func :=
  ⟨stands.called, stands.function, stands.plain⟩

/-- The frames above what stands for a function, as far as they index it, give it types. -/
theorem StandsFor.index {node : Node} (stands : node.StandsFor decls func) {frame : Frame}
    (indexing : frame.isIndexing = true) (named : (frame.plug node).WellNamed decls) :
    node.unparen.isName = true ∧ frame.givesTypes = true ∧ decls.isInstantiation frame = true ∧
      (frame.plug node).StandsFor decls func := by
  have called := stands.called
  cases frame with
  | indexBase head i =>
    obtain ⟨name, isType, function⟩ := named stands.function
    rw [calledFunction?_of_isName name] at called
    refine ⟨name, isType, ?_, ?_, function, fun _ _ _ _ same => by cases same⟩
    · cases known : head.type <;> simp_all [Declarations.isInstantiation, Declarations.isFunction,
        Declarations.typeOf, Node.head]
    · simp only [Frame.plug, calledFunction?, unparen, isType, if_true]
      exact called
  | indexListBase head indices =>
    obtain ⟨name, function⟩ := named stands.function
    rw [calledFunction?_of_isName name] at called
    refine ⟨name, rfl, ?_, ?_, function, fun _ _ _ _ same => by cases same⟩
    · cases known : head.type <;> simp_all [Declarations.isInstantiation, Declarations.isFunction,
        Declarations.typeOf, Node.head]
    · simp only [Frame.plug, calledFunction?, unparen]
      exact called
  | _ => cases indexing

end Node

namespace Cursor

variable {decls : Declarations} {file : SourceFile} {func : FuncId}

theorem climbFrom_top (fits : Frame → Bool) (node : Node) (path : List Frame) {frame : Frame}
    {above : List Frame} (top : (climbFrom fits node path).path = frame :: above) :
    fits frame = false := by
  induction path generalizing node with
  | nil => cases top
  | cons first path ih =>
    unfold climbFrom at top
    split at top
    next => exact ih _ top
    next stops =>
      cases top
      exact (Bool.not_eq_true _).mp stops

theorem climbFrom_of_stop {fits : Frame → Bool} (node : Node) {path : List Frame}
    (stops : ∀ frame above, path = frame :: above → fits frame = false) :
    climbFrom fits node path = ⟨node, path⟩ := by
  cases path with
  | nil => rfl
  | cons frame above => simp [climbFrom, stops frame above rfl]

theorem outOfParens_outOfParens (cursor : Cursor) : cursor.outOfParens.outOfParens = cursor.outOfParens :=
  climbFrom_of_stop cursor.outOfParens.node fun _ _ => climbFrom_top Frame.isParen cursor.node cursor.path

theorem unparen_outOfParens (cursor : Cursor) : cursor.outOfParens.node.unparen = cursor.node.unparen := by
  have entered := congrArg Cursor.node (enter_climbFrom cursor.node cursor.path)
  rwa [Node.node_enter, Node.node_enter] at entered

/-- Climbing through parentheses and indexing keeps what stands for a function, and its call. -/
theorem climbFrom_standsFor (named : file.WellNamed decls) {fits : Frame → Bool}
    (around : ∀ frame, fits frame = true → frame.isParen = true ∨ frame.isIndexing = true)
    {node : Node} {path : List Frame} (visited : ⟨node, path⟩ ∈ file.cursors)
    (stands : node.StandsFor decls func) :
    (climbFrom fits node path).node.StandsFor decls func ∧
      (climbFrom fits node path).call? = callFrom? node path := by
  induction path generalizing node with
  | nil => exact ⟨stands, rfl⟩
  | cons frame path ih =>
    unfold climbFrom
    split
    next fitting =>
      have above := (SourceFile.parent_mem_cursors visited).1
      rcases around frame fitting with paren | indexing
      · cases frame with
        | paren head => exact ih above (stands.paren head)
        | _ => cases paren
      · obtain ⟨-, types, -, next⟩ := stands.index indexing (named _ above)
        obtain ⟨standing, same⟩ := ih above next
        refine ⟨standing, same.trans ?_⟩
        simp [callFrom?, Frame.isCallee_of_isIndexing indexing, types]
    next => exact ⟨stands, rfl⟩

variable (named : file.WellNamed decls)

include named

theorem outOfParens_standsFor {cursor : Cursor} (visited : cursor ∈ file.cursors)
    (stands : cursor.node.StandsFor decls func) :
    cursor.outOfParens ∈ file.cursors ∧ cursor.outOfParens.node.StandsFor decls func ∧
      cursor.outOfParens.call? = cursor.call? :=
  ⟨outOfParens_mem_cursors visited, climbFrom_standsFor named (fun _ paren => Or.inl paren) visited stands⟩

theorem instantiated_standsFor {cursor : Cursor} (visited : cursor ∈ file.cursors)
    (stands : cursor.node.StandsFor decls func) :
    decls.instantiated cursor ∈ file.cursors ∧ (decls.instantiated cursor).node.StandsFor decls func ∧
      (decls.instantiated cursor).call? = cursor.call? :=
  ⟨climbFrom_mem_cursors _ visited, climbFrom_standsFor named
    (fun _ instantiates => Or.inr (Frame.isIndexing_of_isInstantiation instantiates)) visited stands⟩

/-- A function that is instantiated is so once. -/
theorem instantiated_cases {cursor : Cursor} (visited : cursor ∈ file.cursors)
    (stands : cursor.node.StandsFor decls func) :
    (decls.instantiated cursor = cursor ∧
      ∀ frame above, cursor.path = frame :: above → frame.isIndexing = false) ∨
    ∃ frame above, cursor.path = frame :: above ∧ frame.isIndexing = true ∧
      decls.instantiated cursor = ⟨frame.plug cursor.node, above⟩ := by
  obtain ⟨node, path⟩ := cursor
  cases path with
  | nil => exact Or.inl ⟨rfl, fun _ _ top => nomatch top⟩
  | cons frame above =>
    cases indexing : frame.isIndexing with
    | false =>
      have stops : decls.isInstantiation frame = false := by
        cases instantiates : decls.isInstantiation frame with
        | false => rfl
        | true =>
          rw [Frame.isIndexing_of_isInstantiation instantiates] at indexing
          cases indexing
      refine Or.inl ⟨?_, ?_⟩
      · simp [Declarations.instantiated, climbFrom, stops]
      · rintro _ _ ⟨rfl, rfl⟩
        exact indexing
    | true =>
      refine Or.inr ⟨frame, above, rfl, indexing, ?_⟩
      have parent := (SourceFile.parent_mem_cursors visited).1
      obtain ⟨-, -, instantiates, next⟩ := stands.index indexing (named _ parent)
      simp only [Declarations.instantiated, climbFrom, instantiates, if_true]
      refine climbFrom_of_stop _ fun outer rest top => ?_
      cases again : decls.isInstantiation outer with
      | false => rfl
      | true =>
        rw [top] at parent
        obtain ⟨name, -⟩ := next.index (Frame.isIndexing_of_isInstantiation again)
          (named _ (SourceFile.parent_mem_cursors parent).1)
        -- An instantiation is no name, so it is not indexed in turn.
        obtain ⟨noName, inside⟩ := Node.isName_plug indexing node
        rw [inside, noName] at name
        cases name

/-- At the end of the way up from a function there are no parentheses, and nothing is indexed. -/
theorem top_of_way_up {cursor : Cursor} (visited : cursor ∈ file.cursors)
    (stands : cursor.node.StandsFor decls func) {frame : Frame} {above : List Frame}
    (top : (decls.instantiated cursor.outOfParens).outOfParens.path = frame :: above) :
    frame.isParen = false ∧ frame.isIndexing = false := by
  refine ⟨climbFrom_top Frame.isParen _ _ top, ?_⟩
  obtain ⟨visited₁, stands₁, -⟩ := outOfParens_standsFor named visited stands
  obtain ⟨visited₂, stands₂, -⟩ := instantiated_standsFor named visited₁ stands₁
  obtain ⟨visited₃, stands₃, -⟩ := outOfParens_standsFor named visited₂ stands₂
  rcases instantiated_cases named visited₁ stands₁ with ⟨same, free⟩ | ⟨outer, rest, -, indexing, same⟩
  · rw [same, outOfParens_outOfParens] at top
    exact free frame above top
  · cases again : frame.isIndexing with
    | false => rfl
    | true =>
      rcases out : (decls.instantiated cursor.outOfParens).outOfParens with ⟨node, path⟩
      rw [out] at top visited₃ stands₃
      cases top
      obtain ⟨name, -⟩ := stands₃.index again (named _ (SourceFile.parent_mem_cursors visited₃).1)
      -- Inside its parentheses the node is an instantiation, and that is no name.
      obtain ⟨noName, inside⟩ := Node.isName_plug indexing cursor.outOfParens.node
      have stripped := unparen_outOfParens (decls.instantiated cursor.outOfParens)
      rw [out, same, inside] at stripped
      rw [stripped, noName] at name
      cases name

/-- A function is found to be called exactly if there is a call of it. -/
theorem isCalled_eq {cursor : Cursor} (visited : cursor ∈ file.cursors)
    (stands : cursor.node.StandsFor decls func) : decls.isCalled cursor = cursor.call?.isSome := by
  obtain ⟨visited₁, stands₁, call₁⟩ := outOfParens_standsFor named visited stands
  obtain ⟨visited₂, stands₂, call₂⟩ := instantiated_standsFor named visited₁ stands₁
  obtain ⟨-, -, call₃⟩ := outOfParens_standsFor named visited₂ stands₂
  rw [← call₁, ← call₂, ← call₃, Declarations.isCalled]
  rcases out : (decls.instantiated cursor.outOfParens).outOfParens with ⟨node, path⟩
  cases path with
  | nil => rfl
  | cons frame above =>
    obtain ⟨noParen, noIndexing⟩ := top_of_way_up named visited stands (congrArg Cursor.path out)
    have noTypes : frame.givesTypes = false := by
      cases gives : frame.givesTypes with
      | false => rfl
      | true => exact (Frame.isIndexing_of_givesTypes gives).symm.trans noIndexing
    cases callee : frame.isCallee <;> simp [Cursor.call?, callFrom?, callee, noParen, noTypes]

/-- The call of a function calls that function. -/
theorem call?_cases {cursor call : Cursor} (visited : cursor ∈ file.cursors)
    (stands : cursor.node.StandsFor decls func) (isCall : cursor.call? = some call) :
    call ∈ file.cursors ∧ ∃ head callee args spread, call.node = .call head callee args spread ∧
      callee.StandsFor decls func := by
  obtain ⟨node, path⟩ := cursor
  unfold Cursor.call? at isCall
  induction path generalizing node with
  | nil => cases isCall
  | cons frame path ih =>
    have above := (SourceFile.parent_mem_cursors visited).1
    simp only [callFrom?] at isCall
    split at isCall
    next callee =>
      cases isCall
      cases frame with
      | callee head args spread => exact ⟨above, head, node, args, spread, rfl, stands⟩
      | _ => cases callee
    next =>
      split at isCall
      next around =>
        rcases (Bool.or_eq_true _ _).mp around with paren | gives
        · cases frame with
          | paren head => exact ih _ above (stands.paren head) isCall
          | _ => cases paren
        · obtain ⟨-, -, -, next⟩ := stands.index (Frame.isIndexing_of_givesTypes gives) (named _ above)
          exact ih _ above next isCall
      next => cases isCall

/-- Names of functions that have the same instantiation are the same. -/
theorem instantiated_inj {first second : Cursor} {other : FuncId} (visited : first ∈ file.cursors)
    (visited' : second ∈ file.cursors) (mentions : first.node.mentioned? = some func)
    (mentions' : second.node.mentioned? = some other)
    (same : decls.instantiated first = decls.instantiated second) : first = second := by
  have name := Node.isName_of_mentioned? mentions
  have name' := Node.isName_of_mentioned? mentions'
  have stands := Node.standsFor_of_mentioned? (named _ visited) mentions
  have stands' := Node.standsFor_of_mentioned? (named _ visited') mentions'
  obtain ⟨node, path⟩ := first
  obtain ⟨node', path'⟩ := second
  rcases instantiated_cases named visited stands with ⟨left, -⟩ | ⟨frame, above, rfl, indexing, left⟩
  · rcases instantiated_cases named visited' stands' with ⟨right, -⟩ | ⟨frame', above', -, indexing', right⟩
    · rw [← left, ← right, same]
    · rw [left, right] at same
      rw [same, (Node.isName_plug indexing' _).1] at name
      cases name
  · rcases instantiated_cases named visited' stands' with ⟨right, -⟩ | ⟨frame', above', rfl, indexing', right⟩
    · rw [left, right] at same
      rw [← same, (Node.isName_plug indexing _).1] at name'
      cases name'
    · rw [left, right] at same
      cases frame <;> cases indexing <;> cases frame' <;> cases indexing' <;> cases same <;> rfl

end Cursor

end Fluent
