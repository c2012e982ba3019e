import Fluent.Source.Lines
import Mathlib.Data.List.Nodup

/-! The reported numbers of lines.

Lines are counted from the start of a file until a comment says otherwise. From there on they are
counted from the number that the comment gives. So a number can be left out, and it can stand for
several lines. -/

set_option autoImplicit false

namespace Fluent

namespace LineTable

variable (table : LineTable) {first last offset number : Nat} {info : LineInfo}

/-- Is an info the last one at or before an offset? -/
def Governs (info : LineInfo) (offset : Nat) : Prop :=
  info ∈ table.infos ∧ info.offset ≤ offset ∧
    ∀ other ∈ table.infos, other.offset ≤ offset → other.offset ≤ info.offset

/-- The line of an offset has a number. It is the number of the last info, and one more for each line
that starts behind the info. Without an info, or with one before all lines, it is the number of
lines that start up to the offset. -/
inductive Numbered (offset : Nat) : Nat → Prop
  | counted (free : ∀ info, table.Governs info offset → ∀ start ∈ table.starts, info.offset < start) :
      Numbered offset (table.starts.countP (· ≤ offset))
  | adjusted (info : LineInfo) (governs : table.Governs info offset)
      (inside : ∃ start ∈ table.starts, start ≤ info.offset) :
      Numbered offset
        (info.number + table.starts.countP fun start => info.offset < start ∧ start ≤ offset)

/-- Does no line start behind one offset up to another? -/
def Unbroken (first last : Nat) : Prop :=
  ∀ start ∈ table.starts, ¬ (first < start ∧ start ≤ last)

/-- Is no line numbered anew behind one offset up to another? -/
def Steady (first last : Nat) : Prop :=
  ∀ info ∈ table.infos, ¬ (first < info.offset ∧ info.offset ≤ last)

instance : Decidable (table.Unbroken first last) :=
  inferInstanceAs (Decidable (∀ start ∈ table.starts, ¬ (first < start ∧ start ≤ last)))

instance : Decidable (table.Steady first last) :=
  inferInstanceAs (Decidable (∀ info ∈ table.infos, ¬ (first < info.offset ∧ info.offset ≤ last)))

variable {table}

theorem Unbroken.mono {before : Nat} (unbroken : table.Unbroken first last) (earlier : before ≤ last) :
    table.Unbroken first before :=
  fun start member between => unbroken start member ⟨between.1, Nat.le_trans between.2 earlier⟩

theorem Governs.unique {other : LineInfo} (left : table.Governs info offset)
    (right : table.Governs other offset) : info = other := by
  have distinct : (table.infos.map LineInfo.offset).Nodup :=
    List.pairwise_map.mpr (table.fit.infos_increase.imp Nat.ne_of_lt)
  apply List.inj_on_of_nodup_map distinct left.1 right.1
  exact Nat.le_antisymm (right.2.2 info left.1 left.2.1) (left.2.2 other right.1 right.2.1)

theorem governs_of_lastInfo? (found : table.lastInfo? offset = some info) : table.Governs info offset := by
  obtain ⟨earlier, listed⟩ := List.getLast?_eq_some_iff.mp found
  have member (other : LineInfo) :
      other ∈ earlier ++ [info] ↔ other ∈ table.infos ∧ other.offset ≤ offset := by
    rw [← listed, List.mem_filter, decide_eq_true_iff]
  have increase : (earlier ++ [info]).Pairwise fun first second => first.offset < second.offset :=
    listed ▸ table.fit.infos_increase.filter _
  obtain ⟨inside, before⟩ := (member info).mp (List.mem_append_right _ List.mem_cons_self)
  refine ⟨inside, before, fun other known reached => ?_⟩
  rcases List.mem_append.mp ((member other).mpr ⟨known, reached⟩) with prior | itself
  · exact Nat.le_of_lt ((List.pairwise_append.mp increase).2.2 other prior info List.mem_cons_self)
  · exact (List.mem_singleton.mp itself ▸ Nat.le_refl _)

theorem lastInfo?_eq_none_iff :
    table.lastInfo? offset = none ↔ ∀ info ∈ table.infos, offset < info.offset := by
  simp [lastInfo?]

theorem started_eq_add (table : LineTable) (order : first ≤ last) :
    table.started last =
      table.started first + table.starts.countP fun start => first < start ∧ start ≤ last := by
  unfold started
  induction table.starts with
  | nil => rfl
  | cons start starts ih =>
    simp only [List.countP_cons, ih, decide_eq_true_eq]
    grind

theorem started_eq_zero_iff : table.started offset = 0 ↔ ∀ start ∈ table.starts, offset < start := by
  simp [started, List.countP_eq_zero]

/-- Nothing starts at the end of the file, so it makes no difference how far behind it an offset is. -/
theorem started_min (table : LineTable) (offset : Nat) :
    table.started (min offset table.size) = table.started offset := by
  apply List.countP_congr
  intro start member
  have inside := table.fit.starts_inside start member
  simp only [decide_eq_true_eq]
  omega

theorem lastInfo?_min (table : LineTable) (offset : Nat) :
    table.lastInfo? (min offset table.size) = table.lastInfo? offset := by
  unfold lastInfo?
  congr 1
  apply List.filter_congr
  intro info member
  have inside := table.fit.infos_inside info member
  rw [decide_eq_decide]
  omega

theorem line_of_none (free : table.lastInfo? offset = none) : table.line offset = table.started offset := by
  rw [← lastInfo?_min] at free
  simp only [line, free, started_min]

theorem line_of_some (last : table.lastInfo? offset = some info) :
    table.line offset = table.lineFrom offset info := by
  rw [← lastInfo?_min] at last
  simp only [line, last, lineFrom, started_min]

theorem Numbered.unique {other : Nat} (left : table.Numbered offset number)
    (right : table.Numbered offset other) : number = other := by
  cases left with
  | counted free =>
    cases right with
    | counted => rfl
    | adjusted info governs inside =>
      obtain ⟨start, member, reached⟩ := inside
      exact (Nat.not_lt.mpr reached (free info governs start member)).elim
  | adjusted info governs inside =>
    cases right with
    | counted free =>
      obtain ⟨start, member, reached⟩ := inside
      exact (Nat.not_lt.mpr reached (free info governs start member)).elim
    | adjusted same again => rw [governs.unique again]

theorem numbered_line (table : LineTable) (offset : Nat) : table.Numbered offset (table.line offset) := by
  cases last : table.lastInfo? offset with
  | none =>
    rw [line_of_none last]
    refine .counted fun info governs => ?_
    exact (Nat.not_lt.mpr governs.2.1 (lastInfo?_eq_none_iff.mp last info governs.1)).elim
  | some info =>
    have governs := governs_of_lastInfo? last
    rw [line_of_some last, lineFrom]
    split
    next before =>
      refine .counted fun other same => ?_
      rw [same.unique governs]
      exact started_eq_zero_iff.mp before
    next behind =>
      have inside : ∃ start ∈ table.starts, start ≤ info.offset := by
        by_contra none
        exact behind (started_eq_zero_iff.mpr fun start member =>
          Nat.lt_of_not_le fun reached => none ⟨start, member, reached⟩)
      have number := Numbered.adjusted info governs inside
      rwa [← Nat.sub_eq_of_eq_add' (table.started_eq_add governs.2.1)] at number

theorem line_eq_iff : table.line offset = number ↔ table.Numbered offset number :=
  ⟨fun same => same ▸ table.numbered_line offset, (table.numbered_line offset).unique⟩

theorem lastInfo?_of_steady (steady : table.Steady first last) (order : first ≤ last) :
    table.lastInfo? last = table.lastInfo? first := by
  unfold lastInfo?
  congr 1
  apply List.filter_congr
  intro info member
  have apart := steady info member
  rw [decide_eq_decide]
  omega

/-- Where no line is numbered anew, offsets have the same number only on the same line. -/
theorem line_eq_line_iff (order : first ≤ last) (steady : table.Steady first last) :
    table.line last = table.line first ↔ table.Unbroken first last := by
  have more := table.started_eq_add order
  have between : (table.starts.countP fun start => first < start ∧ start ≤ last) = 0 ↔
      table.Unbroken first last := by
    simp [List.countP_eq_zero, Unbroken]
  have same := lastInfo?_of_steady steady order
  rw [← between]
  cases last : table.lastInfo? first with
  | none =>
    rw [line_of_none (same.trans last), line_of_none last]
    omega
  | some info =>
    have earlier := table.started_eq_add (governs_of_lastInfo? last).2.1
    rw [line_of_some (same.trans last), line_of_some last, lineFrom, lineFrom]
    split <;> omega

end LineTable

end Fluent
