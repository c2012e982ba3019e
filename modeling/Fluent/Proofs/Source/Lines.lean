import Fluent.Proofs.Source.Numbering
import Fluent.Source.File
import Mathlib.Data.List.Induction
import Mathlib.Data.List.TakeWhile

/-! The comments behind a position on its line.

The groups of comments before the position are skipped by bisection, and the comments behind them
are read until one has another line number. Where comments stand in the order of the text and lines
are numbered on, this finds what a scan of all comments would find. -/

set_option autoImplicit false

namespace Fluent

theorem bisect_eq {below : Nat → Bool} {border : Nat} (divides : ∀ number, below number = true ↔ number < border)
    {fuel low high : Nat} (lower : low ≤ border) (upper : border ≤ high) (enough : high - low ≤ fuel) :
    bisect below fuel low high = border := by
  -- The border stays in the interval, which gets smaller until only the border is left.
  induction fuel generalizing low high with
  | zero =>
    have closed : low = border := by omega
    exact closed
  | succ fuel ih =>
    unfold bisect
    by_cases wide : low < high
    · simp only [wide, if_true, divides]
      split
      next before => exact ih (by omega) upper (by omega)
      next behind => exact ih lower (by omega) (by omega)
    · rw [if_neg wide]
      omega

/-- What is searched for up to the first exception is found with no exception before it. -/
theorem any_takeWhile_iff {α : Type} {kept wanted : α → Bool} {elements : List α} :
    (elements.takeWhile kept).any wanted = true ↔ ∃ before element after,
      elements = before ++ element :: after ∧ wanted element = true ∧
        ∀ other ∈ before ++ [element], kept other = true := by
  rw [List.any_eq_true]
  constructor
  · rintro ⟨element, member, found⟩
    obtain ⟨before, after, split⟩ := List.append_of_mem member
    refine ⟨before, element, after ++ elements.dropWhile kept, ?_, found, fun other among => ?_⟩
    · rw [← List.cons_append, ← List.append_assoc, ← split, List.takeWhile_append_dropWhile]
    · have listed : other ∈ elements.takeWhile kept := by
        rw [split, List.append_cons]
        exact List.mem_append_left _ among
      exact List.mem_takeWhile_imp listed
  · rintro ⟨before, element, after, rfl, found, among⟩
    refine ⟨element, ?_, found⟩
    rw [List.append_cons, List.takeWhile_append_of_pos among]
    exact List.mem_append_left _ (List.mem_append_right _ List.mem_cons_self)

namespace CommentGroup

def beginsBefore (position : Nat) : CommentGroup → Bool
  | [] => false
  | first :: _ => first.start < position

/-- Groups of comments as they stand in a text: none is empty, and no comment comes after one that
stands behind it. -/
structure InOrder (groups : List CommentGroup) : Prop where
  filled : ∀ group ∈ groups, group ≠ []
  ordered : groups.flatten.Pairwise fun first second => first.start ≤ second.start

/-- Does a group begin before a position and go on at or behind it? -/
def Straddles (position : Nat) (group : CommentGroup) : Prop :=
  (∃ first ∈ group.head?, first.start < position) ∧ ∃ comment ∈ group, position ≤ comment.start

instance (groups : List CommentGroup) : Decidable (InOrder groups) :=
  decidable_of_iff ((∀ group ∈ groups, group ≠ []) ∧
      groups.flatten.Pairwise fun first second => first.start ≤ second.start)
    ⟨fun ⟨filled, ordered⟩ => ⟨filled, ordered⟩, fun inOrder => ⟨inOrder.filled, inOrder.ordered⟩⟩

instance (position : Nat) (group : CommentGroup) : Decidable (Straddles position group) :=
  inferInstanceAs (Decidable (_ ∧ _))

variable {groups : List CommentGroup} {position : Nat}

theorem InOrder.tail {group : CommentGroup} (inOrder : InOrder (group :: groups)) : InOrder groups :=
  ⟨fun other member => inOrder.filled other (List.mem_cons_of_mem _ member),
    (List.pairwise_append.mp inOrder.ordered).2.1⟩

theorem InOrder.dropWhile (inOrder : InOrder groups) (passed : CommentGroup → Bool) :
    InOrder (groups.dropWhile passed) := by
  induction groups with
  | nil => exact inOrder
  | cons group groups ih =>
    by_cases skip : passed group = true
    · rw [List.dropWhile_cons_of_pos skip]
      exact ih inOrder.tail
    · rw [List.dropWhile_cons_of_neg skip]
      exact inOrder

/-- Behind a group that does not begin before a position, no comment stands before the position. -/
theorem InOrder.behind {group : CommentGroup} (inOrder : InOrder (group :: groups))
    (late : group.beginsBefore position = false) :
    ∀ comment ∈ (group :: groups).flatten, position ≤ comment.start := by
  cases group with
  | nil => exact (inOrder.filled [] List.mem_cons_self rfl).elim
  | cons first rest =>
    have start : position ≤ first.start := by simpa [beginsBefore] using late
    have ordered := inOrder.ordered
    rw [List.flatten_cons, List.cons_append] at ordered ⊢
    refine List.forall_mem_cons.mpr ⟨start, fun comment member => ?_⟩
    exact Nat.le_trans start ((List.pairwise_cons.mp ordered).1 comment member)

/-- The groups that begin before a position come first. -/
theorem InOrder.startsBefore_iff (inOrder : InOrder groups) (number : Nat) :
    startsBefore groups position number = true ↔ number < (groups.takeWhile (beginsBefore position)).length := by
  induction groups generalizing number with
  | nil => simp [startsBefore]
  | cons group groups ih =>
    have first : startsBefore (group :: groups) position 0 = group.beginsBefore position := by
      cases group <;> rfl
    have rest (number : Nat) :
        startsBefore (group :: groups) position (number + 1) = startsBefore groups position number := rfl
    cases early : group.beginsBefore position with
    | true =>
      rw [List.takeWhile_cons_of_pos early, List.length_cons]
      cases number with
      | zero => simp [first, early]
      | succ number => rw [rest, ih inOrder.tail, Nat.add_lt_add_iff_right]
    | false =>
      rw [List.takeWhile_cons_of_neg (by simp [early])]
      refine iff_of_false (fun before => ?_) (Nat.not_lt_zero _)
      -- What begins before the position would have a comment there, behind the first group.
      cases number with
      | zero => simp [first, early] at before
      | succ number =>
        rw [rest] at before
        unfold startsBefore at before
        split at before
        next comment others listed =>
          have member : comment ∈ (group :: groups).flatten :=
            List.mem_flatten.mpr ⟨comment :: others, List.mem_cons_of_mem _ (List.mem_of_getElem? listed),
              List.mem_cons_self⟩
          have late := inOrder.behind early comment member
          have before : comment.start < position := by simpa using before
          omega
        next => cases before

/-- Bisection skips exactly the groups that begin before a position. -/
theorem InOrder.groupsFrom_eq (inOrder : InOrder groups) (position : Nat) :
    groupsFrom groups position = groups.dropWhile (beginsBefore position) := by
  let skipped := groups.takeWhile (beginsBefore position)
  have split : skipped ++ groups.dropWhile (beginsBefore position) = groups :=
    List.takeWhile_append_dropWhile
  have within : skipped.length ≤ groups.length := by
    have lengths := congrArg List.length split
    rw [List.length_append] at lengths
    omega
  calc groupsFrom groups position
      = groups.drop skipped.length := by
        rw [groupsFrom, bisect_eq inOrder.startsBefore_iff (Nat.zero_le _) within (Nat.sub_le _ _)]
    _ = (skipped ++ groups.dropWhile (beginsBefore position)).drop skipped.length := by rw [split]
    _ = groups.dropWhile (beginsBefore position) := List.drop_left

/-- The comments at or behind a position are those of the groups that are not skipped. -/
theorem InOrder.flatten_groupsFrom (inOrder : InOrder groups)
    (undivided : ∀ group ∈ groups, ¬ Straddles position group) :
    (groupsFrom groups position).flatten =
      groups.flatten.filter fun comment => position ≤ comment.start := by
  rw [inOrder.groupsFrom_eq]
  induction groups with
  | nil => rfl
  | cons group groups ih =>
    have later := ih inOrder.tail fun other member => undivided other (List.mem_cons_of_mem _ member)
    cases early : group.beginsBefore position with
    | true =>
      -- A group that begins before the position has no comment behind it.
      have none : group.filter (fun comment => position ≤ comment.start) = [] := by
        rw [List.filter_eq_nil_iff]
        intro comment member behind
        refine undivided group List.mem_cons_self ⟨?_, comment, member, of_decide_eq_true behind⟩
        cases group with
        | nil => cases early
        | cons first rest => exact ⟨first, rfl, by simpa [beginsBefore] using early⟩
      rw [List.dropWhile_cons_of_pos early, later, List.flatten_cons, List.filter_append, none,
        List.nil_append]
    | false =>
      rw [List.dropWhile_cons_of_neg (by simp [early]), eq_comm, List.filter_eq_self]
      exact fun comment member => decide_eq_true (inOrder.behind early comment member)

end CommentGroup

namespace SourceFile

variable (file : SourceFile) {table : LineTable} {position : Nat}

/-- The comments that start at or behind a position. -/
def commentsFrom (position : Nat) : List Comment :=
  file.comments.flatten.filter fun comment => position ≤ comment.start

variable {file}

theorem mem_commentsFrom {comment : Comment} :
    comment ∈ file.commentsFrom position ↔ comment ∈ file.comments.flatten ∧ position ≤ comment.start := by
  rw [commentsFrom, List.mem_filter, decide_eq_true_iff]

theorem commentsFrom_ordered (inOrder : CommentGroup.InOrder file.comments) (position : Nat) :
    (file.commentsFrom position).Pairwise fun first second => first.start ≤ second.start :=
  inOrder.ordered.filter _

/-- Comments are read until one has another line number than the position. -/
theorem nolintAt_eq_true_iff (known : file.lines = some table) (inOrder : CommentGroup.InOrder file.comments)
    (undivided : ∀ group ∈ file.comments, ¬ CommentGroup.Straddles position group) :
    file.nolintAt position = true ↔ ∃ before comment after,
      file.commentsFrom position = before ++ comment :: after ∧ comment.hasNolint = true ∧
        ∀ other ∈ before ++ [comment], table.line other.start = table.line position := by
  simp only [nolintAt, known, Fluent.nolintAt, inOrder.flatten_groupsFrom undivided, any_takeWhile_iff,
    commentsFrom, decide_eq_true_eq]

/-- Is no line numbered anew behind a position, up to the first comment on a later line? -/
def SteadyFrom (file : SourceFile) (table : LineTable) (position : Nat) : Prop :=
  ∀ comment ∈ file.commentsFrom position,
    (∀ other ∈ file.commentsFrom position, other.start < comment.start →
      table.Unbroken position other.start) →
    table.Steady position comment.start

instance : Decidable (file.SteadyFrom table position) :=
  inferInstanceAs (Decidable (∀ comment ∈ file.commentsFrom position,
    (∀ other ∈ file.commentsFrom position, other.start < comment.start →
      table.Unbroken position other.start) → table.Steady position comment.start))

theorem line_eq_of_unbroken (steady : file.SteadyFrom table position) {comment : Comment}
    (listed : comment ∈ file.commentsFrom position) (unbroken : table.Unbroken position comment.start) :
    table.line comment.start = table.line position := by
  apply (LineTable.line_eq_line_iff (mem_commentsFrom.mp listed).2 ?_).mpr unbroken
  exact steady comment listed fun other _ before => unbroken.mono (Nat.le_of_lt before)

section

variable (inOrder : CommentGroup.InOrder file.comments) (steady : file.SteadyFrom table position)
include inOrder steady

theorem unbroken_of_lines {before after : List Comment}
    (split : file.commentsFrom position = before ++ after)
    (same : ∀ other ∈ before, table.line other.start = table.line position) :
    ∀ other ∈ before, table.Unbroken position other.start := by
  -- The last of the comments that are read is on the line if all before it are.
  induction before using List.reverseRecOn generalizing after with
  | nil => exact fun _ member => nomatch member
  | append_singleton before comment ih =>
    rw [List.append_assoc, List.singleton_append] at split
    have earlier := ih split fun other member => same other (List.mem_append_left _ member)
    have ordered := commentsFrom_ordered inOrder position
    rw [split, List.pairwise_append, List.pairwise_cons] at ordered
    have listed : comment ∈ file.commentsFrom position := by simp [split]
    have onward : table.Steady position comment.start := by
      apply steady comment listed
      intro other among prior
      rw [split, List.mem_append, List.mem_cons] at among
      rcases among with among | rfl | among
      · exact earlier other among
      · exact (Nat.lt_irrefl _ prior).elim
      · exact (Nat.not_le_of_lt prior (ordered.2.1.1 other among)).elim
    have here := (LineTable.line_eq_line_iff (mem_commentsFrom.mp listed).2 onward).mp
      (same comment (by simp))
    exact List.forall_mem_append.mpr ⟨earlier, List.forall_mem_singleton.mpr here⟩

/-- Where no line is numbered anew before the first comment on a later line, the search finds what a
scan of the position's line would find. -/
theorem nolintAt_of_steady (known : file.lines = some table)
    (undivided : ∀ group ∈ file.comments, ¬ CommentGroup.Straddles position group) :
    file.nolintAt position = true ↔ ∃ comment ∈ file.comments.flatten, position ≤ comment.start ∧
      table.Unbroken position comment.start ∧ comment.hasNolint = true := by
  rw [nolintAt_eq_true_iff known inOrder undivided]
  constructor
  · rintro ⟨before, comment, after, split, accepts, same⟩
    rw [List.append_cons] at split
    have unbroken := unbroken_of_lines inOrder steady split same comment (by simp)
    obtain ⟨member, behind⟩ := mem_commentsFrom.mp (by simp [split] : comment ∈ file.commentsFrom position)
    exact ⟨comment, member, behind, unbroken, accepts⟩
  · rintro ⟨comment, member, behind, unbroken, accepts⟩
    obtain ⟨before, after, split⟩ := List.append_of_mem (mem_commentsFrom.mpr ⟨member, behind⟩)
    have ordered := commentsFrom_ordered inOrder position
    rw [split] at ordered
    refine ⟨before, comment, after, split, accepts, fun other among => ?_⟩
    have listed : other ∈ file.commentsFrom position := by
      rw [split, List.append_cons]
      exact List.mem_append_left _ among
    apply line_eq_of_unbroken steady listed
    rcases List.mem_append.mp among with prior | itself
    · exact unbroken.mono ((List.pairwise_append.mp ordered).2.2 other prior comment List.mem_cons_self)
    · exact List.mem_singleton.mp itself ▸ unbroken

end

/-- The search for a comment that accepts findings at a position, in a file with known positions whose
comments stand in the order of its text. No group of comments may begin before the position and go on
behind it.

Lines are told apart by their reported numbers. The search finds a comment that starts at or behind the
position exactly if neither it nor a comment in between has another number than the position. Where no
line is numbered anew before the first comment on a later line, this agrees with a scan of the position's
line for such a comment. Where none is so before the last comment, only comments on that line have its
number, and it agrees with a scan by numbers as well. -/
theorem nolintAt_iff_scan (known : file.lines = some table) (inOrder : CommentGroup.InOrder file.comments)
    (undivided : ∀ group ∈ file.comments, ¬ CommentGroup.Straddles position group) :
    (∀ offset number, table.line offset = number ↔ table.Numbered offset number) ∧
    (file.nolintAt position = true ↔ ∃ before comment after,
      file.commentsFrom position = before ++ comment :: after ∧ comment.hasNolint = true ∧
        ∀ other ∈ before ++ [comment], table.line other.start = table.line position) ∧
    (file.SteadyFrom table position →
      (file.nolintAt position = true ↔ ∃ comment ∈ file.comments.flatten, position ≤ comment.start ∧
        table.Unbroken position comment.start ∧ comment.hasNolint = true)) ∧
    ((∀ comment ∈ file.commentsFrom position, table.Steady position comment.start) →
      (∀ comment ∈ file.commentsFrom position,
        (table.line comment.start = table.line position ↔ table.Unbroken position comment.start)) ∧
      (file.nolintAt position = true ↔ ∃ comment ∈ file.comments.flatten, position ≤ comment.start ∧
        table.line comment.start = table.line position ∧ comment.hasNolint = true)) := by
  refine ⟨fun _ _ => LineTable.line_eq_iff, nolintAt_eq_true_iff known inOrder undivided,
    fun steady => nolintAt_of_steady inOrder steady known undivided, fun steady => ?_⟩
  have alike (comment : Comment) (listed : comment ∈ file.commentsFrom position) :=
    LineTable.line_eq_line_iff (mem_commentsFrom.mp listed).2 (steady comment listed)
  refine ⟨alike, ?_⟩
  rw [nolintAt_of_steady inOrder (fun comment listed _ => steady comment listed) known undivided]
  refine exists_congr fun comment => and_congr_right fun member => and_congr_right fun behind => ?_
  rw [alike comment (mem_commentsFrom.mpr ⟨member, behind⟩)]

end SourceFile

namespace Sample

/-- Three lines with comments, counted from eleven. On the second line there is a comment in the middle
and one at the end. -/
def annotated : SourceFile :=
  { packageName := "app"
    start := 0
    stop := 100
    lines := some { size := 100, starts := [0, 30, 80], infos := [⟨0, 11⟩] }
    comments := [
      [⟨4, "// Build and drop."⟩],
      [⟨40, "/* the first */"⟩],
      [⟨60, "//nolint:endcheck"⟩, ⟨81, "// Done."⟩]]
    doc := []
    decls := [] }

/-- A finding at 35 is accepted by the comment at the end of its line, behind another comment. One at 10
is not, since that comment is on the next line. -/
theorem annotated_second_line :
    CommentGroup.InOrder annotated.comments ∧
      (∀ group ∈ annotated.comments, ¬ CommentGroup.Straddles 35 group ∧ ¬ CommentGroup.Straddles 10 group) ∧
      (∀ table ∈ annotated.lines, table.Numbered 10 11 ∧ table.Numbered 60 12 ∧
        annotated.SteadyFrom table 35 ∧ annotated.SteadyFrom table 10) ∧
      annotated.nolintAt 35 = true ∧ annotated.nolintAt 10 = false ∧
      ∃ comment ∈ annotated.commentsFrom 10, comment.hasNolint = true := by
  have inOrder : CommentGroup.InOrder annotated.comments := by decide
  have undivided : ∀ group ∈ annotated.comments,
      ¬ CommentGroup.Straddles 35 group ∧ ¬ CommentGroup.Straddles 10 group := by decide
  obtain ⟨numbers, -, second, -⟩ :=
    SourceFile.nolintAt_iff_scan rfl inOrder fun group member => (undivided group member).1
  obtain ⟨-, -, first, -⟩ :=
    SourceFile.nolintAt_iff_scan rfl inOrder fun group member => (undivided group member).2
  refine ⟨inOrder, undivided, ?_, (second (by decide)).mpr ?_, Bool.eq_false_iff.mpr fun accepted => ?_, ?_⟩
  · rintro table ⟨rfl⟩
    exact ⟨(numbers 10 11).mp (by decide), (numbers 60 12).mp (by decide), by decide, by decide⟩
  · exact ⟨⟨60, "//nolint:endcheck"⟩, by decide, by decide, by decide, by decide +kernel⟩
  · obtain ⟨comment, member, behind, unbroken, -⟩ := (first (by decide)).mp accepted
    have later : ∀ comment ∈ annotated.comments.flatten, 10 ≤ comment.start → 30 ≤ comment.start := by decide
    exact unbroken 30 (by decide) ⟨by decide, later comment member behind⟩
  · exact ⟨⟨60, "//nolint:endcheck"⟩, by decide, by decide +kernel⟩

/-- Five lines. The second says that the one after it is the first. The fourth says so about what
stands behind its comment, which gives the last line its own number. -/
def renumbered : SourceFile :=
  { packageName := "p"
    start := 0
    stop := 86
    lines := some { size := 105, starts := [0, 25, 39, 57, 87], infos := [⟨39, 1⟩, ⟨86, 1⟩] }
    comments := [
      [⟨25, "//line a.go:1"⟩, ⟨39, "//nolint:endcheck"⟩],
      [⟨71, "/*line a.go:1*/"⟩],
      [⟨87, "//nolint:endcheck"⟩]]
    doc := []
    decls := [] }

/-- A finding at 19 is not accepted by the comment at 39, which has the same line number, since there is
one with another number in between. A finding at 65 is accepted by a comment on the next line. -/
theorem renumbered_misread :
    CommentGroup.InOrder renumbered.comments ∧
      (∀ group ∈ renumbered.comments, ¬ CommentGroup.Straddles 19 group ∧ ¬ CommentGroup.Straddles 65 group) ∧
      ∃ table, renumbered.lines = some table ∧
        (renumbered.nolintAt 19 = false ∧ ∃ comment ∈ renumbered.comments.flatten, 19 ≤ comment.start ∧
          table.line comment.start = table.line 19 ∧ comment.hasNolint = true) ∧
        renumbered.nolintAt 65 = true ∧ ∀ comment ∈ renumbered.comments.flatten, 65 ≤ comment.start →
          table.Unbroken 65 comment.start → comment.hasNolint = false := by
  refine ⟨by decide, by decide, _, rfl, ⟨by decide +kernel, ?_⟩, by decide +kernel, by decide +kernel⟩
  exact ⟨⟨39, "//nolint:endcheck"⟩, by decide, by decide, by decide, by decide +kernel⟩

end Sample

end Fluent
