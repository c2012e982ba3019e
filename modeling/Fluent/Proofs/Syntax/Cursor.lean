import Fluent.Source.File

/-! Walks through a syntax tree.

The positions that a walk visits are those that can be reached from the top by going from
a node to one of its parts. So with a position the walk visits its parent and all that lies
below it. -/

set_option autoImplicit false

namespace Fluent

namespace Node

def listParts (frame : List Node → List Node → Frame) (before : List Node) :
    List Node → List (Frame × Node)
  | [] => []
  | node :: after => (frame before after, node) :: listParts frame (before ++ [node]) after

/-- The children that a walk enters, each with the frame around it. -/
def parts : Node → List (Frame × Node)
  | .ident _ | .typeExpr _ | .typeSpec _ _ => []
  | .paren head x => [(.paren head, x)]
  | .selector head x sel selection => [(.selectorBase head sel selection, x)]
  | .index head x i => [(.indexBase head i, x), (.indexArgument head x, i)]
  | .indexList head x indices =>
    (.indexListBase head indices, x) :: listParts (.indexListArgument head x) [] indices
  | .call head callee args spread =>
    (.callee head args spread, callee) ::
      listParts (fun before after => .argument head callee before after spread) [] args
  | .composite head type elements =>
    type.toList.map (fun type => (.compositeType head elements, type)) ++
      listParts (.element head type) [] elements
  | .unary head addressOf x => [(.operand head addressOf, x)]
  | .keyValue head key value => [(.key head value, key), (.value head key, value)]
  | .funcLit head body => [(.closureBody head, body)]
  | .discard head how x => [(.discarded head how, x)]
  | .send head channel value => [(.channel head value, channel), (.sent head channel, value)]
  | .assign head targets values =>
    listParts (fun before after => .target head before after values) [] targets ++
      listParts (.assigned head targets) [] values
  | .ret head results => listParts (.returned head) [] results
  | .valueSpec head names type values =>
    listParts (fun before after => .specName head before after type values) [] names ++
      (type.toList.map (fun type => (.specType head names values, type)) ++
        listParts (.specValue head names type) [] values)
  | .genDecl head declaresTypes specs => listParts (.spec head declaresTypes) [] specs
  | .funcDecl head declares doc receiver body =>
    if docHasNolint doc then []
    else body.toList.map fun body => (.body head declares doc receiver, body)
  | .other head kind parts => listParts (.part head kind) [] parts

theorem plug_listParts {frame : List Node → List Node → Frame} (whole : List Node → Node)
    (plugged : ∀ before node after, (frame before after).plug node = whole (before ++ node :: after))
    (before nodes : List Node) :
    ∀ part ∈ listParts frame before nodes, part.1.plug part.2 = whole (before ++ nodes) := by
  induction nodes generalizing before with
  | nil => simp [listParts]
  | cons node after ih =>
    intro part member
    rcases List.mem_cons.mp member with rfl | member
    · exact plugged before node after
    · rw [ih _ part member, List.append_assoc, List.singleton_append]

theorem plug_optionPart {frame : Frame} (whole : Option Node → Node)
    (plugged : ∀ node, frame.plug node = whole (some node)) (node : Option Node) :
    ∀ part ∈ node.toList.map fun node => (frame, node), part.1.plug part.2 = whole node := by
  cases node with
  | none => simp
  | some node => simpa using plugged node

theorem plug_parts (node : Node) : ∀ part ∈ node.parts, part.1.plug part.2 = node := by
  cases node with
  | indexList head x indices =>
    exact List.forall_mem_cons.mpr ⟨rfl, plug_listParts (.indexList head x) (fun _ _ _ => rfl) [] indices⟩
  | call head callee args spread =>
    exact List.forall_mem_cons.mpr ⟨rfl, plug_listParts (fun args => .call head callee args spread)
      (fun _ _ _ => rfl) [] args⟩
  | composite head type elements =>
    exact List.forall_mem_append.mpr
      ⟨plug_optionPart (fun type => .composite head type elements) (fun _ => rfl) type,
        plug_listParts (.composite head type) (fun _ _ _ => rfl) [] elements⟩
  | assign head targets values =>
    exact List.forall_mem_append.mpr
      ⟨plug_listParts (fun targets => .assign head targets values) (fun _ _ _ => rfl) [] targets,
        plug_listParts (.assign head targets) (fun _ _ _ => rfl) [] values⟩
  | ret head results => exact plug_listParts (.ret head) (fun _ _ _ => rfl) [] results
  | valueSpec head names type values =>
    exact List.forall_mem_append.mpr
      ⟨plug_listParts (fun names => .valueSpec head names type values) (fun _ _ _ => rfl) [] names,
        List.forall_mem_append.mpr
          ⟨plug_optionPart (fun type => .valueSpec head names type values) (fun _ => rfl) type,
            plug_listParts (.valueSpec head names type) (fun _ _ _ => rfl) [] values⟩⟩
  | genDecl head declaresTypes specs =>
    exact plug_listParts (.genDecl head declaresTypes) (fun _ _ _ => rfl) [] specs
  | funcDecl head declares doc receiver body =>
    simp only [parts]
    split
    · simp
    · exact plug_optionPart (.funcDecl head declares doc receiver) (fun _ => rfl) body
  | other head kind children => exact plug_listParts (.other head kind) (fun _ _ _ => rfl) [] children
  | _ => simp [parts, Frame.plug]

theorem cursorsOfList_eq (path : List Frame) (frame : List Node → List Node → Frame)
    (before nodes : List Node) :
    cursorsOfList path frame before nodes =
      (listParts frame before nodes).flatMap fun part => part.2.cursors (part.1 :: path) := by
  induction nodes generalizing before with
  | nil => rfl
  | cons node after ih => simp only [cursorsOfList, listParts, List.flatMap_cons, ih]

theorem cursorsOfOption_eq (path : List Frame) (frame : Frame) (node : Option Node) :
    cursorsOfOption path frame node =
      (node.toList.map fun node => (frame, node)).flatMap fun part => part.2.cursors (part.1 :: path) := by
  cases node <;> simp [cursorsOfOption]

/-- A walk visits a node and then what lies below its parts. -/
theorem cursors_eq (path : List Frame) (node : Node) :
    node.cursors path =
      ⟨node, path⟩ :: node.parts.flatMap fun part => part.2.cursors (part.1 :: path) := by
  cases node with
  | funcDecl head declares doc receiver body =>
    simp only [cursors, parts]
    split
    · rfl
    · rw [cursorsOfOption_eq]
  | _ => simp [cursors, parts, cursorsOfList_eq, cursorsOfOption_eq, List.flatMap_append]

theorem sizeOf_lt_plug (frame : Frame) (node : Node) : sizeOf node < sizeOf (frame.plug node) := by
  -- A frame with siblings puts the node into a list.
  have inList (before after : List Node) : sizeOf node < sizeOf (before ++ node :: after) :=
    List.sizeOf_lt_of_mem (by simp)
  cases frame with
  | indexListArgument _ _ before after => have := inList before after; simp [Frame.plug]; omega
  | argument _ _ before after _ => have := inList before after; simp [Frame.plug]; omega
  | element _ _ before after => have := inList before after; simp [Frame.plug]; omega
  | target _ before after _ => have := inList before after; simp [Frame.plug]; omega
  | assigned _ _ before after => have := inList before after; simp [Frame.plug]; omega
  | returned _ before after => have := inList before after; simp [Frame.plug]; omega
  | specName _ before after _ _ => have := inList before after; simp [Frame.plug]; omega
  | specValue _ _ _ before after => have := inList before after; simp [Frame.plug]; omega
  | spec _ _ before after => have := inList before after; simp [Frame.plug]; omega
  | part _ _ before after => have := inList before after; simp [Frame.plug]; omega
  | _ => simp [Frame.plug] <;> omega

/-- A property holds of every node if it holds of a node whenever it holds of its parts. -/
theorem parts_induction {motive : Node → Prop}
    (step : ∀ node : Node, (∀ part ∈ node.parts, motive part.2) → motive node) (node : Node) :
    motive node := by
  apply step
  intro part member
  exact parts_induction step part.2
termination_by sizeOf node
decreasing_by
  have smaller := sizeOf_lt_plug part.1 part.2
  rwa [plug_parts node part member] at smaller

end Node

/-- A walk from the first position visits the second one. -/
inductive Cursor.Visits (top : Cursor) : Cursor → Prop where
  | here : Visits top top
  | part {cursor : Cursor} {frame : Frame} {node : Node} : Visits top cursor →
      (frame, node) ∈ cursor.node.parts → Visits top ⟨node, frame :: cursor.path⟩

namespace Cursor

theorem Visits.trans {top middle cursor : Cursor} (first : Visits top middle)
    (second : Visits middle cursor) : Visits top cursor := by
  induction second with
  | here => exact first
  | part _ member ih => exact .part ih member

theorem self_mem_cursors (node : Node) (path : List Frame) : ⟨node, path⟩ ∈ node.cursors path := by
  rw [Node.cursors_eq]
  exact List.mem_cons_self

theorem part_mem_cursors {top : Node} {path : List Frame} {cursor : Cursor}
    (visited : cursor ∈ top.cursors path) (part : Frame × Node) (isPart : part ∈ cursor.node.parts) :
    ⟨part.2, part.1 :: cursor.path⟩ ∈ top.cursors path := by
  induction top using Node.parts_induction generalizing path with
  | step top ih =>
    rw [Node.cursors_eq] at visited ⊢
    apply List.mem_cons_of_mem
    rw [List.mem_flatMap]
    rcases List.mem_cons.mp visited with rfl | visited
    · exact ⟨part, isPart, self_mem_cursors part.2 _⟩
    · obtain ⟨outer, isOuter, below⟩ := List.mem_flatMap.mp visited
      exact ⟨outer, isOuter, ih outer isOuter below⟩

theorem mem_cursors_iff (top : Node) (path : List Frame) (cursor : Cursor) :
    cursor ∈ top.cursors path ↔ Visits ⟨top, path⟩ cursor := by
  constructor
  · intro visited
    induction top using Node.parts_induction generalizing path with
    | step top ih =>
      rw [Node.cursors_eq] at visited
      rcases List.mem_cons.mp visited with rfl | visited
      · exact .here
      · obtain ⟨part, isPart, below⟩ := List.mem_flatMap.mp visited
        exact (Visits.part .here isPart).trans (ih part isPart (part.1 :: path) below)
  · intro visited
    induction visited with
    | here => exact self_mem_cursors top path
    | part _ isPart ih => exact part_mem_cursors ih _ isPart

end Cursor

namespace SourceFile

theorem mem_cursors_iff (file : SourceFile) (cursor : Cursor) :
    cursor ∈ file.cursors ↔ ∃ decl ∈ file.decls, Cursor.Visits ⟨decl, []⟩ cursor := by
  simp only [cursors, List.mem_flatMap, Cursor.mem_cursors_iff]

theorem part_mem_cursors {file : SourceFile} {cursor : Cursor} (visited : cursor ∈ file.cursors)
    (part : Frame × Node) (isPart : part ∈ cursor.node.parts) :
    ⟨part.2, part.1 :: cursor.path⟩ ∈ file.cursors := by
  rw [mem_cursors_iff] at visited ⊢
  obtain ⟨decl, member, below⟩ := visited
  exact ⟨decl, member, below.part isPart⟩

/-- With a position its parent is visited, and the position is a part of it. -/
theorem parent_mem_cursors {file : SourceFile} {node : Node} {frame : Frame} {path : List Frame}
    (visited : ⟨node, frame :: path⟩ ∈ file.cursors) :
    ⟨frame.plug node, path⟩ ∈ file.cursors ∧ (frame, node) ∈ (frame.plug node).parts := by
  rw [mem_cursors_iff] at visited
  obtain ⟨decl, member, below⟩ := visited
  cases below with
  | @part cursor _ _ above isPart =>
    have whole : frame.plug node = cursor.node := Node.plug_parts cursor.node _ isPart
    rw [whole, mem_cursors_iff]
    exact ⟨⟨decl, member, above⟩, isPart⟩

end SourceFile

end Fluent
