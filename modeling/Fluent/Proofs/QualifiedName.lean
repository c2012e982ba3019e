import Fluent.Proofs.Text.Cut
import Fluent.QualifiedName
import Mathlib.Data.List.Basic

/-! Spellings of qualified names.

A name is read from the texts that spell it. A function has one spelling, and a method two: the
printed one, and the one with a star before the receiver. Names made of words come back from
their printed form. A name that was read from a text with two stars keeps one of them in its
path, and then the printed form is the starred one of another name. -/

set_option autoImplicit false

namespace Fluent.QualifiedName

/-- A text that can stand behind the last dot of a qualified name. -/
def IsSegment (text : List Char) : Prop := text ≠ [] ∧ '.' ∉ text ∧ '/' ∉ text

theorem splitQualified?_eq_some_iff {text path name : List Char} :
    splitQualified? text = some (path, name) ↔
      text = path ++ '.' :: name ∧ path ≠ [] ∧ IsSegment name := by
  unfold splitQualified?
  constructor
  · intro split
    split at split
    next before rest found =>
      split at split
      next => cases split
      next present =>
        cases split
        obtain ⟨same, fresh⟩ := Text.cutLast?_eq_some_iff.mp found
        simp only [Bool.or_eq_true, not_or, List.isEmpty_iff, List.contains_iff_mem] at present
        exact ⟨same, present.1.1, present.1.2, fresh, present.2⟩
    next => cases split
  · rintro ⟨rfl, path, present, fresh, slash⟩
    rw [Text.cutLast?_eq_some_iff.mpr ⟨rfl, fresh⟩]
    simp [path, present, slash]

/-- The parts of a method's name that can be told apart in its spellings. -/
structure MethodParts (path type name : List Char) : Prop where
  closed : ¬ [')', '.'] <:+: path ++ '.' :: type
  present : path ≠ []
  segment : IsSegment type
  method : isMethodName name = true

/-- The texts that spell a name, without white space around them. A star that stands before a
receiver is no part of the path. -/
inductive Spelled : List Char → QualifiedName → Prop where
  | function {path name : String} (plain : path.toList.head? ≠ some '(') (present : path.toList ≠ [])
      (segment : IsSegment name.toList) :
      Spelled (path.toList ++ '.' :: name.toList) { path, receiver := none, name }
  | method {path type name : String} (parts : MethodParts path.toList type.toList name.toList)
      (bare : path.toList.head? ≠ some '*') :
      Spelled ('(' :: (path.toList ++ '.' :: type.toList ++ ')' :: '.' :: name.toList))
        { path, receiver := some type, name }
  | starred {path type name : String} (parts : MethodParts path.toList type.toList name.toList) :
      Spelled ('(' :: '*' :: (path.toList ++ '.' :: type.toList ++ ')' :: '.' :: name.toList))
        { path, receiver := some type, name }

theorem dropStar_cases (text : List Char) :
    text = '*' :: dropStar text ∨ text = dropStar text ∧ text.head? ≠ some '*' := by
  unfold dropStar
  split
  next => exact Or.inl rfl
  next text bare =>
    refine Or.inr ⟨rfl, fun first => ?_⟩
    obtain ⟨rest, same⟩ := List.head?_eq_some_iff.mp first
    exact bare rest same

theorem spelled_of_parseMethod? {text : List Char} {name : QualifiedName}
    (read : parseMethod? text = some name) : Spelled ('(' :: text) name := by
  unfold parseMethod? at read
  split at read
  next => cases read
  next receiver rest found =>
    split at read
    next method =>
      obtain ⟨⟨path, type⟩, split, rfl⟩ := Option.map_eq_some_iff.mp read
      obtain ⟨rfl, closed⟩ := (Text.cut?_eq_some_iff (by decide)).mp found
      obtain ⟨qualified, present, segment⟩ := splitQualified?_eq_some_iff.mp split
      obtain written | ⟨written, bare⟩ := dropStar_cases receiver
      · rw [qualified] at written
        rw [written] at closed ⊢
        have inner : ¬ [')', '.'] <:+: path ++ '.' :: type :=
          fun inside => closed (List.infix_cons inside)
        have spelled := @Spelled.starred (.ofList path) (.ofList type) (.ofList rest)
        simp only [String.toList_ofList] at spelled
        exact spelled ⟨inner, present, segment, method⟩
      · rw [qualified] at written
        rw [written] at closed bare ⊢
        rw [List.head?_append_of_ne_nil _ present] at bare
        have spelled := @Spelled.method (.ofList path) (.ofList type) (.ofList rest)
        simp only [String.toList_ofList] at spelled
        exact spelled ⟨closed, present, segment, method⟩ bare
    next => cases read

theorem spelled_of_parse {text : String} {name : QualifiedName} (read : parse text = .ok name) :
    Spelled (Text.trim text.toList) name := by
  unfold parse at read
  simp only at read
  split at read
  next rest trimmed =>
    split at read
    next found =>
      cases read
      rw [trimmed]
      exact spelled_of_parseMethod? found
    next => cases read
  next bare =>
    split at read
    next path name split =>
      cases read
      obtain ⟨same, present, segment⟩ := splitQualified?_eq_some_iff.mp split
      have plain : path.head? ≠ some '(' := by
        intro first
        obtain ⟨rest, rfl⟩ := List.head?_eq_some_iff.mp first
        exact bare _ same
      have spelled := @Spelled.function (.ofList path) (.ofList name)
      simp only [String.toList_ofList] at spelled
      rw [same]
      exact spelled plain present segment
    next => cases read

theorem parseMethod?_of_parts {receiver : List Char} {path type name : String}
    (parts : MethodParts path.toList type.toList name.toList) (closed : ¬ [')', '.'] <:+: receiver)
    (qualified : dropStar receiver = path.toList ++ '.' :: type.toList) :
    parseMethod? (receiver ++ ')' :: '.' :: name.toList) =
      some { path, receiver := some type, name } := by
  have found := Text.cut?_append (by decide) closed name.toList
  have split := splitQualified?_eq_some_iff.mpr ⟨qualified, parts.present, parts.segment⟩
  simp [parseMethod?, found, parts.method, split]

theorem parse_of_spelled {text : String} {name : QualifiedName}
    (spelled : Spelled (Text.trim text.toList) name) : parse text = .ok name := by
  unfold parse
  simp only
  generalize Text.trim text.toList = trimmed at spelled
  cases spelled with
  | @function path name plain present segment =>
    have split := splitQualified?_eq_some_iff.mpr ⟨rfl, present, segment⟩
    split
    next rest same =>
      have first : (path.toList ++ '.' :: name.toList).head? = some '(' := by rw [same]; rfl
      rw [List.head?_append_of_ne_nil _ present] at first
      exact (plain first).elim
    next => simp [split]
  | @method path type name parts bare =>
    have unchanged : dropStar (path.toList ++ '.' :: type.toList) = path.toList ++ '.' :: type.toList := by
      obtain written | ⟨written, -⟩ := dropStar_cases (path.toList ++ '.' :: type.toList)
      · have first := congrArg List.head? written
        rw [List.head?_append_of_ne_nil _ parts.present] at first
        exact (bare first).elim
      · exact written.symm
    simp only [parseMethod?_of_parts parts parts.closed unchanged]
  | @starred path type name parts =>
    have closed : ¬ [')', '.'] <:+: '*' :: (path.toList ++ '.' :: type.toList) := by
      intro inside
      rcases List.infix_cons_iff.mp inside with ⟨rest, leads⟩ | inside
      · simp at leads
      · exact parts.closed inside
    have read := parseMethod?_of_parts parts closed rfl
    rw [List.cons_append] at read
    simp only [read]

/-- A text is read as a name exactly if it spells the name. -/
theorem parse_eq_ok_iff {text : String} {name : QualifiedName} :
    parse text = .ok name ↔ Spelled (Text.trim text.toList) name :=
  ⟨spelled_of_parse, parse_of_spelled⟩

/-- A name that can be read has a path. -/
theorem path_ne_of_parse {text : String} {name : QualifiedName} (read : parse text = .ok name) :
    name.path ≠ "" := by
  have spelled := spelled_of_parse read
  generalize Text.trim text.toList = written at spelled
  cases spelled with
  | function _ present _ => simpa using present
  | method parts _ => simpa using parts.present
  | starred parts => simpa using parts.present

/-- The spelling of a name with a star before the receiver, if it has one. -/
def starred (name : QualifiedName) : String :=
  match name.receiver with
  | none => name.render
  | some receiver => "(*" ++ qualify name.path receiver ++ ")." ++ name.name

theorem render_function {path name : String} (present : path.toList ≠ []) :
    (render { path, receiver := none, name }).toList = path.toList ++ '.' :: name.toList := by
  have named : path ≠ "" := by simpa using present
  simp [render, qualify, named]

theorem render_method {path type name : String} (present : path.toList ≠ []) :
    (render { path, receiver := some type, name }).toList =
      '(' :: (path.toList ++ '.' :: type.toList ++ ')' :: '.' :: name.toList) := by
  have named : path ≠ "" := by simpa using present
  simp [render, qualify, named]

theorem starred_method {path type name : String} (present : path.toList ≠ []) :
    (starred { path, receiver := some type, name }).toList =
      '(' :: '*' :: (path.toList ++ '.' :: type.toList ++ ')' :: '.' :: name.toList) := by
  have named : path ≠ "" := by simpa using present
  simp [starred, qualify, named]

theorem trimmed_method_iff {inner name : List Char} :
    Text.Trimmed ('(' :: (inner ++ ')' :: '.' :: name)) ↔
      ∀ c ∈ name.getLast?, Text.isBlank c = false := by
  have first : ∀ c ∈ ('(' :: (inner ++ ')' :: '.' :: name)).head?, Text.isBlank c = false := by
    rintro _ ⟨rfl⟩
    rfl
  have last : ('(' :: (inner ++ ')' :: '.' :: name)).getLast? = ('.' :: name).getLast? := by
    simpa using List.getLast?_append_cons ('(' :: inner ++ [')']) '.' name
  rw [Text.Trimmed, and_iff_right first, last]
  cases name with
  | nil =>
    have dot : Text.isBlank '.' = false := rfl
    simp [dot]
  | cons c name => rw [List.getLast?_cons_cons]

theorem parse_of_text {text : String} {name : QualifiedName} (trimmed : Text.Trimmed text.toList)
    (spelled : Spelled text.toList name) : parse text = .ok name :=
  parse_of_spelled (by rwa [Text.trim_eq_self trimmed])

theorem parse_render_function {path name : String} (plain : path.toList.head? ≠ some '(')
    (present : path.toList ≠ []) (segment : IsSegment name.toList)
    (trimmed : Text.Trimmed (path.toList ++ '.' :: name.toList)) :
    parse (render { path, receiver := none, name }) = .ok { path, receiver := none, name } := by
  rw [← render_function present] at trimmed
  apply parse_of_text trimmed
  rw [render_function present]
  exact .function plain present segment

section Method

variable {path type name : String} (parts : MethodParts path.toList type.toList name.toList)
  (ended : ∀ c ∈ name.toList.getLast?, Text.isBlank c = false)
include parts ended

theorem parse_starred_method :
    parse (starred { path, receiver := some type, name }) = .ok { path, receiver := some type, name } := by
  apply parse_of_text
  · rw [starred_method parts.present, ← List.cons_append]
    exact trimmed_method_iff.mpr ended
  · rw [starred_method parts.present]
    exact .starred parts

theorem trimmed_render_method : Text.Trimmed (render { path, receiver := some type, name }).toList := by
  rw [render_method parts.present]
  exact trimmed_method_iff.mpr ended

/-- The printed form of a method is read as it is meant unless its path begins with a star. -/
theorem parse_render_method_iff :
    parse (render { path, receiver := some type, name }) = .ok { path, receiver := some type, name } ↔
      path.toList.head? ≠ some '*' := by
  have trimmed := trimmed_render_method parts ended
  constructor
  · intro read
    have spelled := spelled_of_parse read
    rw [Text.trim_eq_self trimmed, render_method parts.present] at spelled
    generalize written : '(' :: (path.toList ++ '.' :: type.toList ++ ')' :: '.' :: name.toList) = text
      at spelled
    cases spelled with
    | method _ bare => exact bare
    | starred _ =>
      have length := congrArg List.length written
      simp at length
  · intro bare
    apply parse_of_text trimmed
    rw [render_method parts.present]
    exact .method parts bare

/-- If the path begins with a star, the printed form means the path without it. -/
theorem parse_render_star_led {rest : List Char} (present : rest ≠ [])
    (led : path.toList = '*' :: rest) :
    parse (render { path, receiver := some type, name }) =
      .ok { path := .ofList rest, receiver := some type, name } := by
  have trimmed := trimmed_render_method parts ended
  have closed : ¬ [')', '.'] <:+: rest ++ '.' :: type.toList := by
    intro inside
    apply parts.closed
    rw [led, List.cons_append]
    exact List.infix_cons inside
  have spelled := @Spelled.starred (.ofList rest) type name
    (by rw [String.toList_ofList]; exact ⟨closed, present, parts.segment, parts.method⟩)
  apply parse_of_text trimmed
  rw [render_method parts.present, led]
  rwa [String.toList_ofList] at spelled

end Method

/-- A name that is read from a text comes back from its printed form exactly if the text does not
begin with two stars before the receiver. With two of them, the first is ignored and the second
counts for the path, so that the printed form has one star, which is ignored in its turn. The
spelling with a further star always gives the name back. -/
theorem print_stable_iff {text : String} {name : QualifiedName} (read : parse text = .ok name) :
    (parse name.render = .ok name ↔ ¬ ['(', '*', '*'] <+: Text.trim text.toList) ∧
    parse name.starred = .ok name ∧
    ∀ rest, rest ≠ [] → name.receiver.isSome = true → name.path.toList = '*' :: rest →
      parse name.render = .ok { name with path := .ofList rest } := by
  have spelled := spelled_of_parse read
  have trimmed := Text.trimmed_trim text.toList
  generalize Text.trim text.toList = written at spelled trimmed ⊢
  cases spelled with
  | @function path name plain present segment =>
    have rendered := parse_render_function plain present segment trimmed
    refine ⟨iff_of_true rendered ?_, rendered, fun _ _ method => nomatch method⟩
    rintro ⟨rest, same⟩
    have first := congrArg List.head? same
    rw [List.head?_append_of_ne_nil _ present] at first
    exact plain first.symm
  | @method path type name parts bare =>
    have ended := trimmed_method_iff.mp trimmed
    refine ⟨iff_of_true ((parse_render_method_iff parts ended).mpr bare) ?_,
      parse_starred_method parts ended, fun rest present _ => parse_render_star_led parts ended present⟩
    intro stars
    obtain ⟨-, rest, same⟩ := List.cons_prefix_cons.mp stars
    have first := congrArg List.head? same
    rw [List.append_assoc, List.head?_append_of_ne_nil _ parts.present] at first
    exact bare first.symm
  | @starred path type name parts =>
    have ended : ∀ c ∈ name.toList.getLast?, Text.isBlank c = false := by
      rw [← List.cons_append] at trimmed
      exact trimmed_method_iff.mp trimmed
    refine ⟨(parse_render_method_iff parts ended).trans (not_congr ?_),
      parse_starred_method parts ended, fun rest present _ => parse_render_star_led parts ended present⟩
    obtain ⟨c, tail, path⟩ := List.exists_cons_of_ne_nil parts.present
    simp [path, List.cons_prefix_cons, eq_comm]

/-- Is a text not empty, and free of white space and of some characters? -/
def FreeOf (marks : List Char) (text : String) : Prop :=
  text.toList ≠ [] ∧ ∀ c ∈ text.toList, Text.isBlank c = false ∧ c ∉ marks

/-- What stands in the path of a package, with any number of dots and slashes. -/
def IsPath (path : String) : Prop := FreeOf ['(', ')', '*'] path

/-- What stands in the name of a function or a type. -/
def IsWord (word : String) : Prop := FreeOf ['.', '/', '(', ')', '*'] word

structure WellFormed (name : QualifiedName) : Prop where
  path : IsPath name.path
  receiver : ∀ receiver ∈ name.receiver, IsWord receiver
  name : IsWord name.name

-- The characters of the text are looked at, not all characters.
instance (marks : List Char) (text : String) : Decidable (FreeOf marks text) :=
  @instDecidableAnd _ _ inferInstance (List.decidableBAll _ text.toList)

instance (path : String) : Decidable (IsPath path) := inferInstanceAs (Decidable (FreeOf _ path))

instance (word : String) : Decidable (IsWord word) := inferInstanceAs (Decidable (FreeOf _ word))

instance (name : QualifiedName) : Decidable name.WellFormed :=
  decidable_of_iff (IsPath name.path ∧ (∀ receiver ∈ name.receiver, IsWord receiver) ∧ IsWord name.name)
    ⟨fun ⟨path, receiver, name⟩ => ⟨path, receiver, name⟩,
      fun wellFormed => ⟨wellFormed.path, wellFormed.receiver, wellFormed.name⟩⟩

namespace FreeOf

variable {marks : List Char} {text : String}

theorem head_not_blank (free : FreeOf marks text) : ∀ c ∈ text.toList.head?, Text.isBlank c = false :=
  fun c first => (free.2 c (List.mem_of_mem_head? first)).1

theorem last_not_blank (free : FreeOf marks text) :
    ∀ c ∈ text.toList.getLast?, Text.isBlank c = false :=
  fun c last => (free.2 c (List.mem_of_getLast? last)).1

theorem not_mem (free : FreeOf marks text) {mark : Char} (listed : mark ∈ marks) : mark ∉ text.toList :=
  fun member => (free.2 mark member).2 listed

theorem head_ne (free : FreeOf marks text) {mark : Char} (listed : mark ∈ marks) :
    text.toList.head? ≠ some mark :=
  fun first => free.not_mem listed (List.mem_of_mem_head? first)

end FreeOf

theorem IsWord.segment {word : String} (isWord : IsWord word) : IsSegment word.toList :=
  ⟨isWord.1, FreeOf.not_mem isWord (by decide), FreeOf.not_mem isWord (by decide)⟩

theorem IsWord.isMethodName {word : String} (isWord : IsWord word) :
    isMethodName word.toList = true := by
  have free : ∀ c ∈ word.toList, ¬ (c = '.' ∨ c = '/' ∨ c = '(' ∨ c = ')') := by
    intro c member mark
    have absent := (isWord.2 c member).2
    rcases mark with rfl | rfl | rfl | rfl <;> simp at absent
  have some := isWord.1
  simp_all [QualifiedName.isMethodName]

theorem WellFormed.parts {path type name : String}
    (wellFormed : WellFormed { path, receiver := some type, name }) :
    MethodParts path.toList type.toList name.toList where
  closed := by
    intro inside
    have member : ')' ∈ path.toList ++ '.' :: type.toList := inside.subset (by simp)
    have isWord := wellFormed.receiver type rfl
    have inPath := FreeOf.not_mem wellFormed.path (by decide : ')' ∈ ['(', ')', '*'])
    have inType := FreeOf.not_mem isWord (by decide : ')' ∈ ['.', '/', '(', ')', '*'])
    simp [inPath, inType] at member
  present := wellFormed.path.1
  segment := (wellFormed.receiver type rfl).segment
  method := wellFormed.name.isMethodName

/-- A well formed name is read from its printed form and from its starred spelling. -/
theorem WellFormed.parse_eq {name : QualifiedName} (wellFormed : name.WellFormed) :
    parse name.render = .ok name ∧ parse name.starred = .ok name := by
  obtain ⟨path, receiver, name⟩ := name
  have ended := FreeOf.last_not_blank wellFormed.name
  cases receiver with
  | none =>
    have present : path.toList ≠ [] := wellFormed.path.1
    have plain : path.toList.head? ≠ some '(' := FreeOf.head_ne wellFormed.path (by decide)
    have trimmed : Text.Trimmed (path.toList ++ '.' :: name.toList) := by
      constructor
      · rw [List.head?_append_of_ne_nil _ present]
        exact FreeOf.head_not_blank wellFormed.path
      · obtain ⟨c, tail, written⟩ := List.exists_cons_of_ne_nil wellFormed.name.1
        rw [List.getLast?_append_cons, written, List.getLast?_cons_cons, ← written]
        exact ended
    have rendered := parse_render_function plain present wellFormed.name.segment trimmed
    exact ⟨rendered, rendered⟩
  | some type =>
    have bare : path.toList.head? ≠ some '*' := FreeOf.head_ne wellFormed.path (by decide)
    exact ⟨(parse_render_method_iff wellFormed.parts ended).mpr bare,
      parse_starred_method wellFormed.parts ended⟩

/-- The ways to write a name: as it is printed or with a star before the receiver, and with any white
space around it. -/
def WrittenAs (name : QualifiedName) (text : String) : Prop :=
  ∃ before after spelling : List Char,
    (spelling = name.render.toList ∨ spelling = name.starred.toList) ∧
    (∀ c ∈ before, Text.isBlank c = true) ∧ (∀ c ∈ after, Text.isBlank c = true) ∧
    text.toList = before ++ spelling ++ after

theorem WellFormed.parse_of_writtenAs {name : QualifiedName} (wellFormed : name.WellFormed) {text : String}
    (written : name.WrittenAs text) : parse text = .ok name := by
  obtain ⟨before, after, spelling, spells, blankBefore, blankAfter, same⟩ := written
  apply parse_of_spelled
  rw [same, Text.trim_surrounded blankBefore blankAfter]
  rcases spells with rfl | rfl
  · exact spelled_of_parse wellFormed.parse_eq.1
  · exact spelled_of_parse wellFormed.parse_eq.2

/-- A name of a path and words is read from its printed form, so different names of this kind are
printed differently. In particular no function is printed like a method. -/
theorem print_read_back {name : QualifiedName} (wellFormed : name.WellFormed) :
    parse name.render = .ok name ∧
    (∀ other : QualifiedName, other.WellFormed → other.render = name.render → other = name) ∧
    ∀ other : QualifiedName, other.WellFormed → other.receiver.isSome ≠ name.receiver.isSome →
      other.render ≠ name.render := by
  have read := wellFormed.parse_eq.1
  have injective (other : QualifiedName) (otherFormed : other.WellFormed)
      (same : other.render = name.render) : other = name := by
    have again := otherFormed.parse_eq.1
    rw [same, read] at again
    exact (Except.ok.inj again).symm
  refine ⟨read, injective, fun other otherFormed differ same => differ ?_⟩
  rw [injective other otherFormed same]

end Fluent.QualifiedName

namespace Fluent.Sample

/-- The star before the receiver and the blanks around the text are gone for good. -/
theorem builder_print_stable :
    QualifiedName.parse " (*example.com/dsl.Builder).Build " =
        .ok { path := "example.com/dsl", receiver := some "Builder", name := "Build" } ∧
      QualifiedName.parse "(example.com/dsl.Builder).Build" =
        .ok { path := "example.com/dsl", receiver := some "Builder", name := "Build" } := by
  have read : QualifiedName.parse " (*example.com/dsl.Builder).Build " =
      .ok { path := "example.com/dsl", receiver := some "Builder", name := "Build" } := by decide +kernel
  exact ⟨read, (QualifiedName.print_stable_iff read).1.mpr (by decide +kernel)⟩

/-- Of two stars one is left over, and it is gone when the name has been printed. -/
theorem second_star_lost :
    QualifiedName.parse "(**a.b).c" = .ok { path := "*a", receiver := some "b", name := "c" } ∧
      QualifiedName.parse (QualifiedName.render { path := "*a", receiver := some "b", name := "c" }) ≠
        .ok { path := "*a", receiver := some "b", name := "c" } := by
  decide +kernel

/-- A path with a version does not run into the name of a type, nor a method into a function. -/
theorem versioned_read_back :
    QualifiedName.WellFormed { path := "gopkg.in/yaml.v3", receiver := some "Node", name := "Decode" } ∧
      QualifiedName.parse "(gopkg.in/yaml.v3.Node).Decode" =
        .ok { path := "gopkg.in/yaml.v3", receiver := some "Node", name := "Decode" } ∧
      QualifiedName.render { path := "gopkg.in/yaml.v3", receiver := none, name := "Decode" } ≠
        "(gopkg.in/yaml.v3.Node).Decode" := by
  have method : QualifiedName.WellFormed
      { path := "gopkg.in/yaml.v3", receiver := some "Node", name := "Decode" } := by decide +kernel
  have function : QualifiedName.WellFormed
      { path := "gopkg.in/yaml.v3", receiver := none, name := "Decode" } := by decide +kernel
  obtain ⟨read, -, differ⟩ := QualifiedName.print_read_back method
  exact ⟨method, read, differ _ function (by decide)⟩

end Fluent.Sample
