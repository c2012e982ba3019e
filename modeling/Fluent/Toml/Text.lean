import Fluent.Text.Quoted

/-! Strings and keys in TOML. A reader takes a text and gives what it has read and the rest. -/

set_option autoImplicit false

namespace Fluent.Toml

def isSpace (c : Char) : Bool := c = ' ' || c = '\t'

def isNewline (c : Char) : Bool := c = '\n' || c = '\r'

/-- The text from the first character that is no space on. -/
def skipSpaces (text : List Char) : List Char := text.dropWhile isSpace

/-- Replace escapes by the characters they stand for. A backslash at the end of a line stands
for nothing, and neither does the white space after it. -/
def unescape : (fuel : Nat) → List Char → Option (List Char)
  | 0, text => if text.isEmpty then some [] else none
  | _, [] => some []
  | fuel + 1, '\\' :: text =>
    let blank := fun c => isSpace c || isNewline c
    let plain := fun (c : Char) (rest : List Char) => (unescape fuel rest).map (c :: ·)
    let scalar := fun (width : Nat) (text : List Char) =>
      (Text.readDigits Text.hexDigit? 16 width 0 text).bind fun (value, rest) =>
        (Text.scalar? value).bind fun c => plain c rest
    match text with
    | 'b' :: rest => plain '\x08' rest
    | 't' :: rest => plain '\t' rest
    | 'n' :: rest => plain '\n' rest
    | 'f' :: rest => plain '\x0c' rest
    | 'r' :: rest => plain '\r' rest
    | '"' :: rest => plain '"' rest
    | '\\' :: rest => plain '\\' rest
    | 'u' :: rest => scalar 4 rest
    | 'U' :: rest => scalar 8 rest
    | text =>
      if (text.takeWhile blank).contains '\n' then unescape fuel (text.dropWhile blank) else none
  | fuel + 1, c :: text => (unescape fuel text).map (c :: ·)

/-- The body of a string in single `mark`s on one line, and the text after it. With `escapes`, a
character after a backslash does not end it. -/
def lineBody (mark : Char) (escapes : Bool) : List Char → Option (List Char × List Char)
  | [] => none
  | [c] => if c = mark then some ([], []) else none
  | c :: d :: text =>
    if c = mark then some ([], d :: text)
    else if isNewline c then none
    else if escapes && c = '\\' then
      if isNewline d then none
      else (lineBody mark escapes text).map fun (body, rest) => (c :: d :: body, rest)
    else (lineBody mark escapes (d :: text)).map fun (body, rest) => (c :: body, rest)

/-- May a body, given backwards, be followed by one more mark before the three that end it? At
most two marks may, unless a backslash stands before them. -/
def roomForMark (mark : Char) (escapes : Bool) : List Char → Bool
  | a :: b :: seen => !(a = mark && b = mark) || (escapes && seen.head? = some '\\')
  | _ => true

/-- The body of a string in three `mark`s, and the text after it; `seen` is what has been read of
it, backwards. -/
def blockBody (mark : Char) (escapes : Bool) :
    (seen : List Char) → List Char → Option (List Char × List Char)
  | _, [] => none
  | seen, c :: text =>
    if c = mark ∧ text.take 2 = [mark, mark] then
      if (text.drop 2).head? = some mark then
        if roomForMark mark escapes seen then blockBody mark escapes (c :: seen) text else none
      else some (seen.reverse, text.drop 2)
    else
      match escapes && c = '\\', text with
      | true, d :: rest => blockBody mark escapes (d :: c :: seen) rest
      | _, text => blockBody mark escapes (c :: seen) text

/-- A newline right after the opening marks does not count. -/
def dropFirstNewline : List Char → List Char
  | '\n' :: text => text
  | '\r' :: '\n' :: text => text
  | text => text

/-- Read the rest of a string on one line after its mark. -/
def readLine (mark : Char) (text : List Char) : Option (List Char × List Char) :=
  (lineBody mark (mark = '"') text).bind fun (body, rest) =>
    if mark = '"' then (unescape body.length body).map fun body => (body, rest)
    else some (body, rest)

/-- Read the rest of a string on several lines after its marks. -/
def readBlock (mark : Char) (text : List Char) : Option (List Char × List Char) :=
  (blockBody mark (mark = '"') [] text).bind fun (body, rest) =>
    let body := dropFirstNewline body
    if mark = '"' then (unescape body.length body).map fun body => (body, rest)
    else some (body, rest)

def readString : List Char → Option (List Char × List Char)
  | '"' :: '"' :: '"' :: text => readBlock '"' text
  | '\'' :: '\'' :: '\'' :: text => readBlock '\'' text
  | '"' :: text => readLine '"' text
  | '\'' :: text => readLine '\'' text
  | _ => none

def isBareKeyChar (c : Char) : Bool :=
  ('a' ≤ c && c ≤ 'z') || ('A' ≤ c && c ≤ 'Z') || ('0' ≤ c && c ≤ '9') || c = '_' || c = '-'

def readKeyPart : List Char → Option (String × List Char)
  | '"' :: text => (readLine '"' text).map fun (part, rest) => (String.ofList part, rest)
  | '\'' :: text => (readLine '\'' text).map fun (part, rest) => (String.ofList part, rest)
  | text =>
    match text.takeWhile isBareKeyChar with
    | [] => none
    | part => some (String.ofList part, text.dropWhile isBareKeyChar)

abbrev Key := List String

/-- Read the parts of a key between dots, and the spaces around them. -/
def readKey : (fuel : Nat) → List Char → Option (Key × List Char)
  | 0, _ => none
  | fuel + 1, text =>
    (readKeyPart (skipSpaces text)).bind fun (part, rest) =>
      match skipSpaces rest with
      | '.' :: rest => (readKey fuel rest).map fun (parts, rest) => (part :: parts, rest)
      | rest => some ([part], rest)

/-- The escape of a character in a quoted key. -/
def escapeKeyChar (c : Char) : List Char :=
  match c with
  | '"' => ['\\', '"']
  | '\\' => ['\\', '\\']
  | '\x08' => ['\\', 'b']
  | '\t' => ['\\', 't']
  | '\n' => ['\\', 'n']
  | '\x0c' => ['\\', 'f']
  | '\r' => ['\\', 'r']
  | c => if c.toNat < 32 ∨ c.toNat = 127 then '\\' :: 'u' :: Text.hexDigits 4 c.toNat else [c]

/-- A part of a key as it is shown: in quotes unless it can stand bare. -/
def showKeyPart (part : String) : String :=
  if part ≠ "" ∧ part.toList.all isBareKeyChar then part
  else String.ofList ('"' :: (part.toList.flatMap escapeKeyChar ++ ['"']))

def showKey (key : Key) : String :=
  String.intercalate "." (key.map showKeyPart)

end Fluent.Toml
