/-! Cutting a text at a separator, and white space off its ends. -/

set_option autoImplicit false

namespace Fluent.Text

/-- The characters with the Unicode property `White_Space`. -/
def isBlank (c : Char) : Bool :=
  let code := c.toNat
  (9 ≤ code && code ≤ 13) || code == 0x20 || code == 0x85 || code == 0xa0 || code == 0x1680 ||
    (0x2000 ≤ code && code ≤ 0x200a) || code == 0x2028 || code == 0x2029 || code == 0x202f ||
    code == 0x205f || code == 0x3000

def trimStart (text : List Char) : List Char :=
  text.dropWhile isBlank

def trimEnd (text : List Char) : List Char :=
  (trimStart text.reverse).reverse

def trim (text : List Char) : List Char :=
  trimEnd (trimStart text)

/-- What follows `lead` in a text that starts with it. -/
def afterLead? : (lead text : List Char) → Option (List Char)
  | [], text => some text
  | _ :: _, [] => none
  | l :: lead, c :: text => if l = c then afterLead? lead text else none

/-- What precedes `tail` in a text that ends with it. -/
def beforeTail? (tail text : List Char) : Option (List Char) :=
  (afterLead? tail.reverse text.reverse).map List.reverse

def cut? (separator : List Char) : List Char → Option (List Char × List Char)
  | [] => if separator = [] then some ([], []) else none
  | c :: text =>
    match afterLead? separator (c :: text) with
    | some rest => some ([], rest)
    | none => (cut? separator text).map fun (before, rest) => (c :: before, rest)

/-- The parts around the last occurrence of `mark`. -/
def cutLast? (mark : Char) : List Char → Option (List Char × List Char)
  | [] => none
  | c :: text =>
    match cutLast? mark text with
    | some (before, rest) => some (c :: before, rest)
    | none => if c = mark then some ([], text) else none

/-- All parts between occurrences of `mark`; a text without it is its only part. -/
def pieces (mark : Char) : List Char → List (List Char)
  | [] => [[]]
  | c :: text =>
    if c = mark then [] :: pieces mark text
    else
      match pieces mark text with
      | [] => [[c]]
      | first :: rest => (c :: first) :: rest

theorem afterLead?_append (lead rest : List Char) : afterLead? lead (lead ++ rest) = some rest := by
  induction lead with
  | nil => rfl
  | cons c lead ih => simp [afterLead?, ih]

theorem append_of_afterLead? {lead text rest : List Char}
    (found : afterLead? lead text = some rest) : text = lead ++ rest := by
  induction lead generalizing text with
  | nil => simpa [afterLead?] using found
  | cons l lead ih =>
    cases text with
    | nil => simp [afterLead?] at found
    | cons c text =>
      by_cases same : l = c
      · simp only [afterLead?, same, if_true] at found
        simp [same, ih found]
      · simp [afterLead?, same] at found

theorem append_of_cutLast? {mark : Char} {text before rest : List Char}
    (found : cutLast? mark text = some (before, rest)) :
    text = before ++ mark :: rest ∧ mark ∉ rest := by
  induction text generalizing before with
  | nil => simp [cutLast?] at found
  | cons c text ih =>
    cases deeper : cutLast? mark text with
    | some parts =>
      obtain ⟨start, tail⟩ := parts
      simp only [cutLast?, deeper, Option.some.injEq, Prod.mk.injEq] at found
      obtain ⟨rfl, rfl⟩ := found
      obtain ⟨same, fresh⟩ := ih deeper
      exact ⟨by simp [same], fresh⟩
    | none =>
      by_cases here : c = mark
      · simp only [cutLast?, deeper, here, if_true, Option.some.injEq, Prod.mk.injEq] at found
        obtain ⟨rfl, rfl⟩ := found
        refine ⟨by simp [here], ?_⟩
        clear ih
        induction text with
        | nil => simp
        | cons d text ih =>
          cases inner : cutLast? mark text with
          | some parts => simp [cutLast?, inner] at deeper
          | none =>
            by_cases same : d = mark
            · simp [cutLast?, inner, same] at deeper
            · exact fun member => (List.mem_cons.mp member).elim (fun eq => same eq.symm) (ih inner)
      · simp [cutLast?, deeper, here] at found

end Fluent.Text
