import Fluent.Source.Comment

/-! Lines of a file, and the comments on the line of a position. -/

set_option autoImplicit false

namespace Fluent

/-- What a comment says about line numbers: the line of the offset has the number, and the lines
after it are numbered on from there. -/
structure LineInfo where
  offset : Nat
  number : Nat
  deriving DecidableEq

/-- Can the lines of a file of some size start at some offsets, and be numbered anew at others? -/
structure LinesFit (size : Nat) (starts : List Nat) (infos : List LineInfo) : Prop where
  starts_increase : starts.Pairwise (· < ·)
  starts_inside : ∀ start ∈ starts, start < size
  infos_increase : infos.Pairwise fun first second => first.offset < second.offset
  infos_inside : ∀ info ∈ infos, info.offset < size

instance (size : Nat) (starts : List Nat) (infos : List LineInfo) : Decidable (LinesFit size starts infos) :=
  decidable_of_iff (starts.Pairwise (· < ·) ∧ (∀ start ∈ starts, start < size) ∧
      infos.Pairwise (fun first second => first.offset < second.offset) ∧
      ∀ info ∈ infos, info.offset < size)
    ⟨fun ⟨increase, inside, follow, within⟩ => ⟨increase, inside, follow, within⟩,
      fun fit => ⟨fit.starts_increase, fit.starts_inside, fit.infos_increase, fit.infos_inside⟩⟩

/-- The size of a file, the offsets at which its lines start, and those from which its lines are
numbered anew. -/
structure LineTable where
  size : Nat
  starts : List Nat
  infos : List LineInfo
  fit : LinesFit size starts infos := by decide
  deriving DecidableEq

namespace LineTable

/-- The table of a file in which nothing is numbered anew, if lines can start at the offsets. -/
def ofStarts? (size : Nat) (starts : List Nat) : Option LineTable :=
  if fit : LinesFit size starts [] then some { size, starts, infos := [], fit } else none

variable (table : LineTable) (offset : Nat)

/-- How many lines start at or before an offset. -/
def started : Nat := table.starts.countP (· ≤ offset)

def lastInfo? : Option LineInfo :=
  (table.infos.filter fun info => info.offset ≤ offset).getLast?

/-- The number of the line of an offset, counted on from an info before it. An info before the first
line counts for nothing. -/
def lineFrom (info : LineInfo) : Nat :=
  if table.started info.offset = 0 then table.started offset
  else info.number + (table.started offset - table.started info.offset)

/-- The number of the line of an offset, as it is reported. An offset beyond the file counts as the
end of the file. -/
def line : Nat :=
  let offset := min offset table.size
  match table.lastInfo? offset with
  | none => table.started offset
  | some info => table.lineFrom offset info

end LineTable

/-- Halve the interval from `low` to `high` until it is empty, keeping `below` true
before it and false after it, as far as `below` divides the numbers into two. -/
def bisect (below : Nat → Bool) : (fuel low high : Nat) → Nat
  | 0, low, _ => low
  | fuel + 1, low, high =>
    if low < high then
      let middle := (low + high) / 2
      if below middle then bisect below fuel (middle + 1) high else bisect below fuel low middle
    else low

/-- Does the group with a number start before `position`? -/
def startsBefore (groups : List CommentGroup) (position number : Nat) : Bool :=
  match groups[number]? with
  | some (comment :: _) => comment.start < position
  | _ => false

/-- The groups from the first one on that starts at or after `position`, found by bisection. -/
def groupsFrom (groups : List CommentGroup) (position : Nat) : List CommentGroup :=
  groups.drop (bisect (startsBefore groups position) groups.length 0 groups.length)

/-- Does a comment at or after `position` on the same line accept findings? -/
def nolintAt (table : LineTable) (groups : List CommentGroup) (position : Nat) : Bool :=
  let line := table.line position
  let onLine := (groupsFrom groups position).flatten.takeWhile fun comment =>
    table.line comment.start = line
  onLine.any Comment.hasNolint

/-- Does a comment up to the package clause say that the file was generated? -/
def isGenerated (groups : List CommentGroup) (packageStart : Nat) : Bool :=
  groups.any fun group =>
    (group.takeWhile fun comment => comment.start ≤ packageStart).any Comment.marksGenerated

end Fluent
