import Fluent.Toml.Date
import Fluent.Toml.Text

/-! The statements of a TOML text: headers and assignments, as they are written. -/

set_option autoImplicit false

namespace Fluent.Toml

inductive Expr where
  | string (text : String)
  /-- A number, a truth value or a date; which one does not matter to a rule. -/
  | atom
  | array (elements : List Expr)
  | inlineTable (entries : List (Key × Expr))

inductive Statement where
  /-- The header `[key]`. -/
  | table (key : Key)
  /-- The header `[[key]]`. -/
  | arrayTable (key : Key)
  | assign (key : Key) (value : Expr)

def isAtomChar (c : Char) : Bool :=
  isBareKeyChar c || c = '+' || c = '.' || c = ':'

/-- Is a text a value that is written without quotes or brackets? -/
def isAtom (text : List Char) : Bool :=
  text = "true".toList || text = "false".toList || isNumber text || isDate text || isTime text ||
    isDateTime text

/-- The text after an atom. A space may join a date and a time. -/
def afterAtom? (text : List Char) : Option (List Char) :=
  let word := text.takeWhile isAtomChar
  let rest := text.dropWhile isAtomChar
  match isDate word, rest with
  | true, ' ' :: time =>
    match time.takeWhile isAtomChar with
    | [] => some rest
    | clock => if isDateTime (word ++ 'T' :: clock) then some (time.dropWhile isAtomChar) else none
  | _, _ => if isAtom word then some rest else none

/-- The end of the line that a comment is on. -/
def skipComment (text : List Char) : List Char :=
  text.dropWhile fun c => !isNewline c

def skipLines : (fuel : Nat) → List Char → List Char
  | 0, text => text
  | fuel + 1, text =>
    match text.dropWhile fun c => isSpace c || isNewline c with
    | '#' :: rest => skipLines fuel (skipComment rest)
    | rest => rest

mutual

def readValue : (fuel : Nat) → List Char → Option (Expr × List Char)
  | 0, _ => none
  | fuel + 1, text =>
    match skipSpaces text with
    | '[' :: rest => (readElements fuel rest).map fun (elements, rest) => (.array elements, rest)
    | '\x7b' :: rest =>
      match skipSpaces rest with
      | '\x7d' :: rest => some (.inlineTable [], rest)
      | rest => (readEntries fuel rest).map fun (entries, rest) => (.inlineTable entries, rest)
    | '"' :: rest =>
      (readString ('"' :: rest)).map fun (body, rest) => (.string (String.ofList body), rest)
    | '\'' :: rest =>
      (readString ('\'' :: rest)).map fun (body, rest) => (.string (String.ofList body), rest)
    | rest => (afterAtom? rest).map fun rest => (.atom, rest)

/-- Read the elements of an array up to its bracket. A comma may follow the last one. -/
def readElements : (fuel : Nat) → List Char → Option (List Expr × List Char)
  | 0, _ => none
  | fuel + 1, text =>
    match skipLines text.length text with
    | ']' :: rest => some ([], rest)
    | text =>
      (readValue fuel text).bind fun (element, rest) =>
        match skipLines rest.length rest with
        | ',' :: rest =>
          (readElements fuel rest).map fun (elements, rest) => (element :: elements, rest)
        | ']' :: rest => some ([element], rest)
        | _ => none

/-- Read the entries of an inline table up to its brace. It stays on one line, and no comma
follows the last entry. -/
def readEntries : (fuel : Nat) → List Char → Option (List (Key × Expr) × List Char)
  | 0, _ => none
  | fuel + 1, text =>
    (readKey text.length text).bind fun (key, rest) =>
      match rest with
      | '=' :: rest =>
        (readValue fuel rest).bind fun (value, rest) =>
          match skipSpaces rest with
          | ',' :: rest =>
            (readEntries fuel rest).map fun (entries, rest) => ((key, value) :: entries, rest)
          | '\x7d' :: rest => some ([(key, value)], rest)
          | _ => none
      | _ => none

end

def readStatement (text : List Char) : Option (Statement × List Char) :=
  match text with
  | '[' :: '[' :: rest =>
    (readKey rest.length rest).bind fun (key, rest) =>
      (Text.afterLead? [']', ']'] rest).map fun rest => (.arrayTable key, rest)
  | '[' :: rest =>
    (readKey rest.length rest).bind fun (key, rest) =>
      (Text.afterLead? [']'] rest).map fun rest => (.table key, rest)
  | text =>
    (readKey text.length text).bind fun (key, rest) =>
      match rest with
      | '=' :: rest =>
        (readValue (2 * rest.length + 2) rest).map fun (value, rest) => (.assign key value, rest)
      | _ => none

/-- Is the line at its end but for spaces and a comment? -/
def atLineEnd (text : List Char) : Bool :=
  match skipSpaces text with
  | [] => true
  | c :: _ => c = '#' || isNewline c

def readStatements : (fuel : Nat) → List Char → Option (List Statement)
  | 0, _ => none
  | fuel + 1, text =>
    match skipLines text.length text with
    | [] => some []
    | text =>
      (readStatement text).bind fun (statement, rest) =>
        if atLineEnd rest then (readStatements fuel rest).map (statement :: ·) else none

/-- Control characters may not occur anywhere, nor the replacement character, which stands for
bytes that are no text. A carriage return may occur only before a newline. -/
def isCleanText : List Char → Bool
  | [] => true
  | '\r' :: text => text.head? = some '\n' && isCleanText text
  | c :: text =>
    (c = '\t' || c = '\n' || (32 ≤ c.toNat && c.toNat ≠ 127 && c ≠ '\ufffd')) && isCleanText text

/-- The statements of a text; a byte order mark before it does not count. -/
def statements? (text : String) : Option (List Statement) :=
  let text :=
    match text.toList with
    | '\ufeff' :: text => text
    | text => text
  if isCleanText text then readStatements (text.length + 1) text else none

end Fluent.Toml
