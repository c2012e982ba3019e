/-! Texts as bytes.

A message may hold any bytes, so it is kept as bytes; a text of characters
becomes bytes by its UTF-8 encoding. -/

set_option autoImplicit false

namespace Fluent.Text

abbrev Bytes := List UInt8

def Bytes.ofChars (text : List Char) : Bytes :=
  text.flatMap String.utf8EncodeChar

def Bytes.ofString (text : String) : Bytes :=
  .ofChars text.toList

/-- How many bytes a character takes that starts with `lead`. -/
def announcedWidth (lead : UInt8) : Nat :=
  if lead < 0x80 then 1 else if lead < 0xe0 then 2 else if lead < 0xf0 then 3 else 4

/-- The code point spelled by the payload bits of one encoded character. -/
def payload : Bytes → Nat
  | [a] => a.toNat
  | [a, b] => a.toNat % 32 * 64 + b.toNat % 64
  | [a, b, c] => (a.toNat % 16 * 64 + b.toNat % 64) * 64 + c.toNat % 64
  | [a, b, c, d] => ((a.toNat % 8 * 64 + b.toNat % 64) * 64 + c.toNat % 64) * 64 + d.toNat % 64
  | _ => 0

/-- The character that the bytes start with, and the bytes after it. Only the one
encoding of a character counts, so overlong forms and surrogates are refused. -/
def decodeHead? : Bytes → Option (Char × Bytes)
  | [] => none
  | lead :: rest =>
    let width := announcedWidth lead
    let c := Char.ofNat (payload ((lead :: rest).take width))
    if String.utf8EncodeChar c = (lead :: rest).take width then some (c, (lead :: rest).drop width)
    else none

/-- A piece of a byte text: an encoded character, or a byte that belongs to none. -/
inductive Piece where
  | char (c : Char)
  | stray (byte : UInt8)
  deriving DecidableEq

def Piece.bytes : Piece → Bytes
  | .char c => String.utf8EncodeChar c
  | .stray byte => [byte]

/-- Split at most `fuel` pieces off a byte text. -/
def splitPieces : (fuel : Nat) → Bytes → List Piece
  | 0, _ => []
  | _, [] => []
  | fuel + 1, byte :: rest =>
    match decodeHead? (byte :: rest) with
    | some (c, rest) => .char c :: splitPieces fuel rest
    | none => .stray byte :: splitPieces fuel rest

/-- The pieces of a byte text; each takes at least one byte. -/
def Bytes.toPieces (bytes : Bytes) : List Piece :=
  splitPieces bytes.length bytes

theorem append_of_decodeHead? {bytes rest : Bytes} {c : Char}
    (found : decodeHead? bytes = some (c, rest)) : bytes = String.utf8EncodeChar c ++ rest := by
  cases bytes with
  | nil => simp [decodeHead?] at found
  | cons lead tail =>
    simp only [decodeHead?] at found
    split at found
    · next same =>
      simp only [Option.some.injEq, Prod.mk.injEq] at found
      obtain ⟨rfl, rfl⟩ := found
      rw [same, List.take_append_drop]
    · simp at found

end Fluent.Text
