import Fluent.Text.Cut
import Fluent.Text.Quoted

/-! Numbers in TOML.

A rule holds no number, so a number is only told from what is none. -/

set_option autoImplicit false

namespace Fluent.Toml

def isDigit (c : Char) : Bool := '0' ≤ c && c ≤ '9'

def digitsValue (digits : List Char) : Nat :=
  digits.foldl (fun value c => value * 10 + (c.toNat - '0'.toNat)) 0

/-- A number with its sign split off; the sign is negative or not. -/
def splitSign : List Char → Bool × List Char
  | '-' :: text => (true, text)
  | '+' :: text => (false, text)
  | text => (false, text)

/-- The digits of a text in which single underscores may stand between digits. -/
def groupedDigits? (isDigit : Char → Bool) (text : List Char) : Option (List Char) :=
  let groups := Text.pieces '_' text
  if groups.all fun group => !group.isEmpty && group.all isDigit then some groups.flatten else none

/-- The digits of a number that does not start with a superfluous zero. -/
def wholeDigits? (text : List Char) : Option (List Char) :=
  (groupedDigits? isDigit text).bind fun digits =>
    match digits with
    | '0' :: _ :: _ => none
    | _ => some digits

/-- The value of an integer in a base other than ten. -/
def basedValue? (base : Nat) (text : List Char) : Option Nat :=
  let digit? := fun c => (Text.hexDigit? c).filter (· < base)
  (groupedDigits? (fun c => (digit? c).isSome) text).map fun digits =>
    digits.foldl (fun value c => value * base + (digit? c).getD 0) 0

/-- Is a text an integer that fits into 64 bits? Only a decimal number may have a sign. -/
def isInteger (text : List Char) : Bool :=
  let based := fun (base : Nat) (text : List Char) =>
    (basedValue? base text).any (· < Nat.pow 2 63)
  match text with
  | '0' :: 'x' :: text => based 16 text
  | '0' :: 'o' :: text => based 8 text
  | '0' :: 'b' :: text => based 2 text
  | text =>
    let (negative, text) := splitSign text
    (wholeDigits? text).any fun digits =>
      digitsValue digits < Nat.pow 2 63 + (if negative then 1 else 0)

/-- Does a number given by its digits and the place of its point round to infinity? It does
from the middle between the greatest finite number and the next power of two on. -/
def overflows (digits : List Char) (exponent : Int) : Bool :=
  let digits := digits.dropWhile (· = '0')
  let least := Nat.pow 2 1024 - Nat.pow 2 970
  if digits.isEmpty then false
  else if digits.length + exponent > 310 then true
  else if digits.length + exponent < 300 then false
  else if exponent < 0 then least * Nat.pow 10 exponent.natAbs ≤ digitsValue digits
  else least ≤ digitsValue digits * Nat.pow 10 exponent.natAbs

/-- The exponent that a text spells, zero if there is none. -/
def exponent? : Option (List Char) → Option Int
  | none => some 0
  | some text =>
    let (negative, text) := splitSign text
    (groupedDigits? isDigit text).map fun digits =>
      let value : Int := digitsValue digits
      if negative then -value else value

/-- The parts of a text around the first mark of an exponent. -/
def cutExponent : List Char → List Char × Option (List Char)
  | [] => ([], none)
  | c :: text =>
    if c = 'e' || c = 'E' then ([], some text)
    else
      let (before, rest) := cutExponent text
      (c :: before, rest)

/-- Is a text a number with a point or an exponent, and not too large? -/
def isDecimal (text : List Char) : Bool :=
  let (mantissa, power) := cutExponent (splitSign text).2
  let (whole, fraction) :=
    match Text.cut? ['.'] mantissa with
    | some (whole, fraction) => (whole, some fraction)
    | none => (mantissa, none)
  (power.isSome || fraction.isSome) &&
    match wholeDigits? whole, exponent? power with
    | some wholeDigits, some exponent =>
      match fraction with
      | none => !overflows wholeDigits exponent
      | some fraction =>
        match groupedDigits? isDigit fraction with
        | none => false
        | some digits => !overflows (wholeDigits ++ digits) (exponent - digits.length)
    | _, _ => false

def isSpecial (text : List Char) : Bool :=
  (splitSign text).2 = "inf".toList || (splitSign text).2 = "nan".toList

def isNumber (text : List Char) : Bool :=
  isInteger text || isDecimal text || isSpecial text

end Fluent.Toml
