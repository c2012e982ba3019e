import Fluent.Text.Cut
import Fluent.Text.CharClass
import Fluent.Text.Utf8

/-! Quoted string literals: writing any bytes between double quotes, and reading a
literal in double quotes or back quotes. -/

set_option autoImplicit false

namespace Fluent.Text

/-- The last `width` hexadecimal digits of a number. -/
def hexDigits : (width value : Nat) → List Char
  | 0, _ => []
  | width + 1, value => hexDigits width (value / 16) ++ [Nat.digitChar (value % 16)]

/-- The escape of a control character that has a letter of its own. -/
def escapeLetter? (c : Char) : Option Char :=
  match c.toNat with
  | 7 => some 'a'
  | 8 => some 'b'
  | 9 => some 't'
  | 10 => some 'n'
  | 11 => some 'v'
  | 12 => some 'f'
  | 13 => some 'r'
  | _ => none

def escapeChar (c : Char) : List Char :=
  if c = '"' ∨ c = '\\' then ['\\', c]
  else if isPrintable c then [c]
  else
    match escapeLetter? c with
    | some letter => ['\\', letter]
    | none =>
      if c.toNat < 32 ∨ c.toNat = 127 then '\\' :: 'x' :: hexDigits 2 c.toNat
      else if c.toNat < 0x10000 then '\\' :: 'u' :: hexDigits 4 c.toNat
      else '\\' :: 'U' :: hexDigits 8 c.toNat

def Piece.escape : Piece → List Char
  | .char c => escapeChar c
  | .stray byte => '\\' :: 'x' :: hexDigits 2 byte.toNat

/-- The literal in double quotes that stands for the bytes. -/
def quote (bytes : Bytes) : List Char :=
  '"' :: (bytes.toPieces.flatMap Piece.escape ++ ['"'])

def hexDigit? (c : Char) : Option Nat :=
  if '0' ≤ c ∧ c ≤ '9' then some (c.toNat - '0'.toNat)
  else if 'a' ≤ c ∧ c ≤ 'f' then some (c.toNat - 'a'.toNat + 10)
  else if 'A' ≤ c ∧ c ≤ 'F' then some (c.toNat - 'A'.toNat + 10)
  else none

def octalDigit? (c : Char) : Option Nat :=
  if '0' ≤ c ∧ c ≤ '7' then some (c.toNat - '0'.toNat) else none

/-- Read exactly `count` digits after a value already read. -/
def readDigits (digit? : Char → Option Nat) (base : Nat) :
    (count value : Nat) → List Char → Option (Nat × List Char)
  | 0, value, text => some (value, text)
  | _ + 1, _, [] => none
  | count + 1, value, c :: text =>
    (digit? c).bind fun d => readDigits digit? base count (value * base + d) text

/-- A code point of a character: no surrogate, and not beyond the last one. -/
def scalar? (value : Nat) : Option Char :=
  if value.isValidChar then some (Char.ofNat value) else none

/-- The bytes of an escape, read after its backslash, and the text after it. -/
def readEscape : List Char → Option (Bytes × List Char)
  | 'a' :: text => some ([7], text)
  | 'b' :: text => some ([8], text)
  | 't' :: text => some ([9], text)
  | 'n' :: text => some ([10], text)
  | 'v' :: text => some ([11], text)
  | 'f' :: text => some ([12], text)
  | 'r' :: text => some ([13], text)
  | '\\' :: text => some ([92], text)
  | '"' :: text => some ([34], text)
  | 'x' :: text => (readDigits hexDigit? 16 2 0 text).map fun (value, rest) => ([value.toUInt8], rest)
  | 'u' :: text =>
    (readDigits hexDigit? 16 4 0 text).bind fun (value, rest) =>
      (scalar? value).map fun c => (String.utf8EncodeChar c, rest)
  | 'U' :: text =>
    (readDigits hexDigit? 16 8 0 text).bind fun (value, rest) =>
      (scalar? value).map fun c => (String.utf8EncodeChar c, rest)
  | c :: text =>
    (octalDigit? c).bind fun first =>
      (readDigits octalDigit? 8 2 first text).bind fun (value, rest) =>
        if value < 256 then some ([value.toUInt8], rest) else none
  | [] => none

/-- Read up to the closing double quote, which has to end the text. -/
def readQuoted : (fuel : Nat) → List Char → Option Bytes
  | 0, _ => none
  | _, [] => none
  | _ + 1, '"' :: text => if text.isEmpty then some [] else none
  | fuel + 1, '\\' :: text =>
    (readEscape text).bind fun (bytes, rest) => (readQuoted fuel rest).map (bytes ++ ·)
  | _ + 1, '\n' :: _ => none
  | fuel + 1, c :: text => (readQuoted fuel text).map (String.utf8EncodeChar c ++ ·)

/-- Read up to the closing back quote, which has to end the text; carriage
returns do not count. -/
def readRaw (text : List Char) : Option Bytes :=
  match cut? ['\x60'] text with
  | some (body, []) => some (.ofChars (body.filter (· ≠ '\r')))
  | _ => none

def unquote? : List Char → Option Bytes
  | '"' :: text => readQuoted text.length text
  | '\x60' :: text => readRaw text
  | _ => none

end Fluent.Text
