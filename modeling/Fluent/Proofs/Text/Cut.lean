import Fluent.Text.Cut
import Mathlib.Data.List.DropRight
import Mathlib.Data.List.Infix

/-! Where a text is cut, and what is left of it without the white space around it.

Cutting gives the parts of a text in exactly the cases in which they make it up again and the
separator does not come up where it would be found earlier. White space around a text makes no
difference to what is left of it. -/

set_option autoImplicit false

namespace Fluent.Text

/-- Has a text no white space at its ends? -/
def Trimmed (text : List Char) : Prop :=
  (∀ c ∈ text.head?, isBlank c = false) ∧ ∀ c ∈ text.getLast?, isBlank c = false

theorem trimStart_eq_self {text : List Char} (solid : ∀ c ∈ text.head?, isBlank c = false) :
    trimStart text = text := by
  cases text with
  | nil => rfl
  | cons c text => simp [trimStart, solid c rfl]

theorem trimStart_blank_append {before : List Char} (blank : ∀ c ∈ before, isBlank c = true)
    (text : List Char) : trimStart (before ++ text) = trimStart text :=
  List.dropWhile_append_of_pos blank

theorem trimStart_append_blank {after : List Char} (blank : ∀ c ∈ after, isBlank c = true)
    (text : List Char) :
    trimStart (text ++ after) = [] ∧ trimStart text = [] ∨
      trimStart (text ++ after) = trimStart text ++ after := by
  induction text with
  | nil =>
    refine Or.inl ⟨?_, rfl⟩
    simpa [trimStart] using blank
  | cons c text ih =>
    by_cases white : isBlank c = true
    · simpa [trimStart, white] using ih
    · simp [trimStart, white]

theorem trimEnd_append_blank {after : List Char} (blank : ∀ c ∈ after, isBlank c = true)
    (text : List Char) : trimEnd (text ++ after) = trimEnd text := by
  have reversed : ∀ c ∈ after.reverse, isBlank c = true := by simpa using blank
  rw [trimEnd, List.reverse_append, trimStart_blank_append reversed, trimEnd]

theorem trim_surrounded {before after : List Char} (blankBefore : ∀ c ∈ before, isBlank c = true)
    (blankAfter : ∀ c ∈ after, isBlank c = true) (text : List Char) :
    trim (before ++ text ++ after) = trim text := by
  rw [List.append_assoc, trim, trimStart_blank_append blankBefore, trim]
  obtain ⟨whole, part⟩ | same := trimStart_append_blank blankAfter text
  · rw [whole, part]
  · rw [same, trimEnd_append_blank blankAfter]

theorem trim_eq_self {text : List Char} (trimmed : Trimmed text) : trim text = text := by
  have reversed : ∀ c ∈ text.reverse.head?, isBlank c = false := by simpa using trimmed.2
  rw [trim, trimStart_eq_self trimmed.1, trimEnd, trimStart_eq_self reversed, List.reverse_reverse]

theorem head_trimStart (text : List Char) : ∀ c ∈ (trimStart text).head?, isBlank c = false := by
  intro c first
  have solid := List.head?_dropWhile_not isBlank text
  rwa [← trimStart, first] at solid

theorem trimmed_trim (text : List Char) : Trimmed (trim text) := by
  constructor
  · intro c first
    -- What is left after the end has been trimmed is a beginning of what was there before.
    obtain ⟨blanks, same⟩ : trimEnd (trimStart text) <+: trimStart text :=
      List.rdropWhile_prefix isBlank _
    refine head_trimStart text c ?_
    rw [← same]
    exact List.mem_head?_append_of_mem_head? first
  · intro c last
    rw [trim, trimEnd, List.getLast?_reverse] at last
    exact head_trimStart _ c last

/-- A text is cut at the first place where the separator stands. -/
theorem append_of_cut? {separator text before rest : List Char} (present : separator ≠ [])
    (found : cut? separator text = some (before, rest)) :
    text = before ++ separator ++ rest ∧ ¬ separator <:+: before := by
  induction text generalizing before with
  | nil => simp [cut?, present] at found
  | cons c text ih =>
    cases here : afterLead? separator (c :: text) with
    | some tail =>
      simp only [cut?, here, Option.some.injEq, Prod.mk.injEq] at found
      obtain ⟨rfl, rfl⟩ := found
      exact ⟨append_of_afterLead? here, by simpa using present⟩
    | none =>
      simp only [cut?, here, Option.map_eq_some_iff, Prod.mk.injEq, Prod.exists] at found
      obtain ⟨start, tail, later, rfl, rfl⟩ := found
      obtain ⟨rfl, fresh⟩ := ih later
      refine ⟨by simp, fun inside => ?_⟩
      rcases List.infix_cons_iff.mp inside with ⟨more, leads⟩ | inside
      · have text : c :: (start ++ separator ++ tail) = separator ++ (more ++ separator ++ tail) := by
          rw [← List.append_assoc, ← List.append_assoc, leads]
          simp
        rw [text, afterLead?_append] at here
        cases here
      · exact fresh inside

/-- A separator of two different characters cannot begin in the part before it and end behind it. -/
theorem cut?_append {first second : Char} (differ : first ≠ second) {before : List Char}
    (fresh : ¬ [first, second] <:+: before) (rest : List Char) :
    cut? [first, second] (before ++ first :: second :: rest) = some (before, rest) := by
  induction before with
  | nil => simp [cut?, afterLead?]
  | cons c before ih =>
    have later : ¬ [first, second] <:+: before := fun inside => fresh (List.infix_cons inside)
    have here : afterLead? [first, second] (c :: (before ++ first :: second :: rest)) = none := by
      cases found : afterLead? [first, second] (c :: (before ++ first :: second :: rest)) with
      | none => rfl
      | some tail =>
        obtain ⟨rfl, next⟩ := List.cons.inj (append_of_afterLead? found)
        cases before with
        | nil => exact (differ (List.cons.inj next).1).elim
        | cons d before =>
          obtain ⟨rfl, -⟩ := List.cons.inj next
          exact (fresh ⟨[], before, rfl⟩).elim
    rw [List.cons_append, cut?, here, ih later]
    rfl

theorem cut?_eq_some_iff {first second : Char} (differ : first ≠ second)
    {text before rest : List Char} :
    cut? [first, second] text = some (before, rest) ↔
      text = before ++ first :: second :: rest ∧ ¬ [first, second] <:+: before := by
  constructor
  · intro found
    simpa using append_of_cut? (by simp) found
  · rintro ⟨rfl, fresh⟩
    exact cut?_append differ fresh rest

theorem cutLast?_eq_none {mark : Char} {text : List Char} (absent : mark ∉ text) :
    cutLast? mark text = none := by
  induction text with
  | nil => rfl
  | cons c text ih =>
    obtain ⟨here, later⟩ := not_or.mp (mt List.mem_cons.mpr absent)
    simp [cutLast?, ih later, Ne.symm here]

theorem cutLast?_eq_some_iff {mark : Char} {text before rest : List Char} :
    cutLast? mark text = some (before, rest) ↔ text = before ++ mark :: rest ∧ mark ∉ rest := by
  constructor
  · exact append_of_cutLast?
  · rintro ⟨rfl, fresh⟩
    induction before with
    | nil => simp [cutLast?, cutLast?_eq_none fresh]
    | cons c before ih => simp [cutLast?, ih]

end Fluent.Text
