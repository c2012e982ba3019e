import Fluent.Toml.Number

/-! Dates and times in TOML.

A rule holds no date, so a date is only told from what is none. -/

set_option autoImplicit false

namespace Fluent.Toml

def readFixed (count : Nat) (text : List Char) : Option (Nat × List Char) :=
  let digits := text.take count
  if digits.length = count ∧ digits.all isDigit then some (digitsValue digits, text.drop count)
  else none

def readMark (mark : Char) : List Char → Option (List Char)
  | c :: text => if c = mark then some text else none
  | [] => none

def isLeapYear (year : Nat) : Bool :=
  year % 4 = 0 && (year % 100 ≠ 0 || year % 400 = 0)

def daysIn (year month : Nat) : Nat :=
  if month = 2 then (if isLeapYear year then 29 else 28)
  else if month = 4 ∨ month = 6 ∨ month = 9 ∨ month = 11 then 30
  else 31

/-- What follows a day of the calendar, written `year-month-day`. -/
def afterDate? (text : List Char) : Option (List Char) := do
  let (year, text) ← readFixed 4 text
  let text ← readMark '-' text
  let (month, text) ← readFixed 2 text
  let text ← readMark '-' text
  let (day, text) ← readFixed 2 text
  if 1 ≤ month ∧ month ≤ 12 ∧ 1 ≤ day ∧ day ≤ daysIn year month then some text else none

/-- The hour is written with two digits or one. -/
def readHour (text : List Char) : Option (Nat × List Char) :=
  (readFixed 2 text).orElse fun _ => readFixed 1 text

/-- What follows the decimals of a second, if there are any. -/
def afterDecimals : List Char → List Char
  | '.' :: c :: text => if isDigit c then text.dropWhile isDigit else '.' :: c :: text
  | text => text

/-- What follows a time of the day, written `hour:minute:second`. -/
def afterTime? (text : List Char) : Option (List Char) := do
  let (hour, text) ← readHour text
  let text ← readMark ':' text
  let (minute, text) ← readFixed 2 text
  let text ← readMark ':' text
  let (second, text) ← readFixed 2 text
  if hour < 24 ∧ minute < 60 ∧ second < 60 then some (afterDecimals text) else none

/-- Is a text the distance from universal time, or empty? -/
def isOffset : List Char → Bool
  | [] => true
  | ['Z'] | ['z'] => true
  | sign :: text =>
    (sign = '+' || sign = '-') &&
      match (do
        let (hours, text) ← readFixed 2 text
        let text ← readMark ':' text
        let (minutes, text) ← readFixed 2 text
        some (hours, minutes, text)) with
      | some (hours, minutes, []) => hours ≤ 24 && minutes ≤ 60
      | _ => false

def isDate (text : List Char) : Bool :=
  afterDate? text = some []

/-- A time alone starts with two digits, or with one that is not zero. -/
def isTime (text : List Char) : Bool :=
  afterTime? text = some [] && text.take 2 ≠ ['0', ':']

/-- Is a text a date with a time, joined by a letter? -/
def isDateTime (text : List Char) : Bool :=
  match afterDate? text with
  | some (joint :: text) =>
    (joint = 'T' || joint = 't') &&
      match afterTime? text with
      | some offset => isOffset offset
      | none => false
  | _ => false

end Fluent.Toml
