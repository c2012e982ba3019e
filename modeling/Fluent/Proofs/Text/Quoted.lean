import Fluent.Text.Quoted
import Mathlib.Algebra.Group.Nat.Defs
import Mathlib.Data.List.Basic

/-! Quoted texts are read back.

A byte text is the sequence of its pieces. The escape of a piece takes one step to read and
gives the bytes of the piece, whichever of the escapes it is, so reading what has been quoted
goes from piece to piece and ends at the closing quote with the bytes at hand. -/

set_option autoImplicit false

namespace Fluent.Text

theorem length_of_decodeHead? {bytes rest : Bytes} {c : Char}
    (found : decodeHead? bytes = some (c, rest)) : rest.length < bytes.length := by
  have width := String.length_utf8EncodeChar c
  have positive := Char.utf8Size_pos c
  rw [append_of_decodeHead? found, List.length_append]
  omega

theorem flatMap_splitPieces {fuel : Nat} {bytes : Bytes} (enough : bytes.length ≤ fuel) :
    (splitPieces fuel bytes).flatMap Piece.bytes = bytes := by
  induction fuel generalizing bytes with
  | zero => simpa [splitPieces] using (List.length_eq_zero_iff.mp (Nat.le_zero.mp enough)).symm
  | succ fuel ih =>
    cases bytes with
    | nil => rfl
    | cons byte rest =>
      rw [splitPieces]
      cases found : decodeHead? (byte :: rest) with
      | none =>
        have left : rest.length ≤ fuel := Nat.le_of_succ_le_succ enough
        simp [Piece.bytes, ih left]
      | some part =>
        obtain ⟨c, tail⟩ := part
        have left : tail.length ≤ fuel := by
          have shorter := length_of_decodeHead? found
          omega
        simp [Piece.bytes, ih left, append_of_decodeHead? found]

/-- The pieces of a byte text make it up. -/
theorem flatMap_toPieces (bytes : Bytes) : bytes.toPieces.flatMap Piece.bytes = bytes :=
  flatMap_splitPieces (Nat.le_refl _)

section Digits

theorem hexDigit?_digitChar : ∀ digit < 16, hexDigit? (Nat.digitChar digit) = some digit := by
  decide

theorem readDigits_add (digit? : Char → Option Nat) (base first second value : Nat)
    (text : List Char) :
    readDigits digit? base (first + second) value text =
      (readDigits digit? base first value text).bind fun (value, rest) =>
        readDigits digit? base second value rest := by
  induction first generalizing value text with
  | zero => simp [readDigits]
  | succ first ih =>
    rw [Nat.succ_add]
    cases text with
    | nil => rfl
    | cons c text =>
      cases known : digit? c with
      | none => simp [readDigits, known]
      | some digit => simp [readDigits, known, ih]

theorem readDigits_hexDigits (width value before : Nat) (rest : List Char) :
    readDigits hexDigit? 16 width before (hexDigits width value ++ rest) =
      some (before * 16 ^ width + value % 16 ^ width, rest) := by
  induction width generalizing value rest with
  | zero => simp [readDigits, hexDigits, Nat.mod_one]
  | succ width ih =>
    have last := hexDigit?_digitChar (value % 16) (Nat.mod_lt _ (by decide))
    have whole : value % 16 ^ (width + 1) = value / 16 % 16 ^ width * 16 + value % 16 := by
      rw [Nat.pow_succ, Nat.mul_comm, Nat.mod_mul]
      omega
    rw [hexDigits, List.append_assoc, readDigits_add, ih]
    simp only [Option.bind_some, List.cons_append, List.nil_append, readDigits, last, whole]
    rw [Nat.add_mul, Nat.mul_assoc, ← Nat.pow_succ, Nat.add_assoc]

theorem readDigits_of_lt {width value : Nat} (fits : value < 16 ^ width) (rest : List Char) :
    readDigits hexDigit? 16 width 0 (hexDigits width value ++ rest) = some (value, rest) := by
  rw [readDigits_hexDigits, Nat.zero_mul, Nat.zero_add, Nat.mod_eq_of_lt fits]

theorem scalar?_toNat (c : Char) : scalar? c.toNat = some c := by
  have valid : c.toNat.isValidChar := c.valid
  rw [scalar?, if_pos valid, Char.ofNat_toNat]

theorem toNat_lt (c : Char) : c.toNat < 16 ^ 8 := by
  have valid : c.toNat.isValidChar := c.valid
  unfold Nat.isValidChar at valid
  omega

end Digits

section Escapes

theorem readEscape_byte (byte : UInt8) (rest : List Char) :
    readEscape ('x' :: (hexDigits 2 byte.toNat ++ rest)) = some ([byte], rest) := by
  have fits : byte.toNat < 16 ^ 2 := byte.toNat_lt
  simp [readEscape, readDigits_of_lt fits]

theorem readEscape_short {c : Char} (fits : c.toNat < 0x10000) (rest : List Char) :
    readEscape ('u' :: (hexDigits 4 c.toNat ++ rest)) = some (String.utf8EncodeChar c, rest) := by
  simp [readEscape, @readDigits_of_lt 4 _ fits, scalar?_toNat]

theorem readEscape_long (c : Char) (rest : List Char) :
    readEscape ('U' :: (hexDigits 8 c.toNat ++ rest)) = some (String.utf8EncodeChar c, rest) := by
  simp [readEscape, readDigits_of_lt (toNat_lt c), scalar?_toNat]

theorem utf8EncodeChar_ascii {c : Char} (ascii : c.toNat < 128) :
    String.utf8EncodeChar c = [c.toNat.toUInt8] := by
  have small : c.val.toNat ≤ 127 := Nat.le_of_lt_succ ascii
  simp only [String.utf8EncodeChar, small, if_true]
  rfl

theorem readEscape_letter {c letter : Char} (known : escapeLetter? c = some letter)
    (rest : List Char) :
    readEscape (letter :: rest) = some (String.utf8EncodeChar c, rest) := by
  have encoded (code : Nat) (small : code < 128) (same : c.toNat = code) :
      String.utf8EncodeChar c = [code.toUInt8] := by
    rw [utf8EncodeChar_ascii (same ▸ small), same]
  unfold escapeLetter? at known
  split at known <;> cases known
  all_goals
    next code =>
      rw [encoded _ (by decide) code]
      rfl

/-- A character stands for itself, or for what is read after a backslash. -/
theorem escapeChar_cases (c : Char) :
    (escapeChar c = [c] ∧ c ≠ '"' ∧ c ≠ '\\' ∧ c ≠ '\n') ∨
      ∃ escape, escapeChar c = '\\' :: escape ∧
        ∀ rest, readEscape (escape ++ rest) = some (String.utf8EncodeChar c, rest) := by
  unfold escapeChar
  split
  next delimiter =>
    refine Or.inr ⟨[c], rfl, fun rest => ?_⟩
    rcases delimiter with rfl | rfl <;> rfl
  next inner =>
    obtain ⟨notQuote, notBackslash⟩ := not_or.mp inner
    split
    next printable =>
      refine Or.inl ⟨rfl, notQuote, notBackslash, ?_⟩
      rintro rfl
      exact absurd printable (by decide)
    next =>
      refine Or.inr ?_
      split
      next letter known => exact ⟨[letter], rfl, readEscape_letter known⟩
      next =>
        split
        next control =>
          have ascii : c.toNat < 128 := by omega
          have code : c.toNat.toUInt8.toNat = c.toNat := by
            rw [Nat.toUInt8, UInt8.toNat_ofNat_of_lt' (by simp [UInt8.size]; omega)]
          refine ⟨'x' :: hexDigits 2 c.toNat, rfl, fun rest => ?_⟩
          rw [utf8EncodeChar_ascii ascii, ← readEscape_byte, code]
          rfl
        next =>
          split
          next short => exact ⟨'u' :: hexDigits 4 c.toNat, rfl, readEscape_short short⟩
          next => exact ⟨'U' :: hexDigits 8 c.toNat, rfl, readEscape_long c⟩

theorem readQuoted_backslash {escape rest : List Char} {bytes : Bytes}
    (read : readEscape (escape ++ rest) = some (bytes, rest)) (fuel : Nat) :
    readQuoted (fuel + 1) ('\\' :: escape ++ rest) = (readQuoted fuel rest).map (bytes ++ ·) := by
  rw [List.cons_append, readQuoted, read]
  rfl

theorem readQuoted_escape (fuel : Nat) (piece : Piece) (rest : List Char) :
    readQuoted (fuel + 1) (piece.escape ++ rest) = (readQuoted fuel rest).map (piece.bytes ++ ·) := by
  cases piece with
  | stray byte => exact readQuoted_backslash (readEscape_byte byte rest) fuel
  | char c =>
    rw [Piece.escape, Piece.bytes]
    rcases escapeChar_cases c with ⟨plain, notQuote, notBackslash, notNewline⟩ | ⟨escape, written, read⟩
    · rw [plain, List.singleton_append, readQuoted]
      all_goals simp [notQuote, notBackslash, notNewline]
    · rw [written]
      exact readQuoted_backslash (read rest) fuel

theorem escape_ne_nil (piece : Piece) : piece.escape ≠ [] := by
  cases piece with
  | stray byte => simp [Piece.escape]
  | char c =>
    rcases escapeChar_cases c with ⟨plain, -⟩ | ⟨escape, written, -⟩
    · simp [Piece.escape, plain]
    · simp [Piece.escape, written]

end Escapes

theorem readQuoted_pieces (pieces : List Piece) (spare : Nat) :
    readQuoted (pieces.length + 1 + spare) (pieces.flatMap Piece.escape ++ ['"']) =
      some (pieces.flatMap Piece.bytes) := by
  induction pieces with
  | nil =>
    rw [List.length_nil, Nat.zero_add, Nat.add_comm]
    rfl
  | cons piece pieces ih =>
    have steps : (piece :: pieces).length + 1 + spare = pieces.length + 1 + spare + 1 := by
      rw [List.length_cons]
      omega
    rw [steps, List.flatMap_cons, List.append_assoc, readQuoted_escape, ih]
    rfl

theorem length_le_escapes (pieces : List Piece) :
    pieces.length ≤ (pieces.flatMap Piece.escape).length := by
  induction pieces with
  | nil => exact Nat.le_refl _
  | cons piece pieces ih =>
    have positive := List.length_pos_of_ne_nil (escape_ne_nil piece)
    rw [List.flatMap_cons, List.length_append, List.length_cons]
    omega

/-- A literal that stands for bytes is read as these bytes. -/
theorem unquote?_quote (bytes : Bytes) : unquote? (quote bytes) = some bytes := by
  have enough := length_le_escapes bytes.toPieces
  obtain ⟨spare, steps⟩ := Nat.exists_eq_add_of_le enough
  have read := readQuoted_pieces bytes.toPieces spare
  rw [flatMap_toPieces] at read
  have length : (bytes.toPieces.flatMap Piece.escape ++ ['"']).length =
      bytes.toPieces.length + 1 + spare := by
    rw [List.length_append, steps, List.length_singleton]
    omega
  rw [quote, unquote?, length, read]

end Fluent.Text
