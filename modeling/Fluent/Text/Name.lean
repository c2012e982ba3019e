/-! Names: labels for numbers, names in order, and names that are matched without regard to case. -/

set_option autoImplicit false

namespace Fluent

/-- The label with a number, or a placeholder that shows the number. -/
def numberedLabel (typeName : String) (labels : List String) (number : Nat) : String :=
  labels[number]?.getD (typeName ++ "(" ++ toString number ++ ")")

/-- Put an element behind those whose key is not greater. -/
def insertSorted {α : Type} (key : α → String) (element : α) : List α → List α
  | [] => [element]
  | head :: tail =>
    if key element < key head then element :: head :: tail
    else head :: insertSorted key element tail

/-- Sort by key; elements with the same key keep their order. -/
def sortByKey {α : Type} (key : α → String) (elements : List α) : List α :=
  elements.foldl (fun sorted element => insertSorted key element sorted) []

def dropRepeats : List String → List String
  | [] => []
  | name :: names =>
    match dropRepeats names with
    | [] => [name]
    | next :: rest => if name = next then next :: rest else name :: next :: rest

namespace Text

/-- The lower case of an ASCII letter and of the two other characters that are the
same as one but for case, the long s and the sign for kelvin. -/
def foldChar (c : Char) : Char :=
  if 'A' ≤ c ∧ c ≤ 'Z' then Char.ofNat (c.toNat + 32)
  else if c.toNat = 0x17f then 's'
  else if c.toNat = 0x212a then 'k'
  else c

/-- Is a text the same as a name in ASCII letters but for case? -/
def matchesName (name text : String) : Bool :=
  text.toList.map foldChar = name.toList.map foldChar

end Text

end Fluent
