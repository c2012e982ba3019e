import Fluent.Text.Cut

/-! Comments, and the two notes that comments give to a linter: that a finding on
their line is accepted, and that their file was written by a program. -/

set_option autoImplicit false

namespace Fluent

/-- A comment with its comment marks and the offset of its first byte. -/
structure Comment where
  start : Nat
  text : String
  deriving DecidableEq

def Comment.stop (comment : Comment) : Nat :=
  comment.start + comment.text.utf8ByteSize

/-- Comments with nothing between them but white space. -/
abbrev CommentGroup := List Comment

/-- The name by which comments and directives address this linter. -/
def linterName : String := "endcheck"

/-- The lower case of a letter whose lower case is an ASCII letter; no other
letter can occur in a linter's name. -/
def toLowerAscii (c : Char) : Char :=
  if 'A' ≤ c ∧ c ≤ 'Z' then Char.ofNat (c.toNat + 32)
  else if c.toNat = 0x130 then 'i'
  else if c.toNat = 0x212a then 'k'
  else c

/-- The entries of the list in a `//nolint:` comment. An explanation may follow
after a blank or a slash. -/
def nolintEntries? (text : List Char) : Option (List (List Char)) :=
  (Text.afterLead? ['/', '/'] text).bind fun body =>
    let body := body.dropWhile fun c => c = ' ' || c = '\t'
    (Text.afterLead? "nolint:".toList body).map fun list =>
      let list := list.takeWhile fun c => !(c = ' ' || c = '\t' || c = '/')
      (Text.pieces ',' list).map fun entry => (Text.trim entry).map toLowerAscii

/-- Does a comment accept findings of this linter or of all linters? -/
def Comment.hasNolint (comment : Comment) : Bool :=
  match nolintEntries? comment.text.toList with
  | none => false
  | some entries => entries.any fun entry => entry = linterName.toList || entry = "all".toList

/-- A doc comment counts when its last line does. -/
def docHasNolint (doc : CommentGroup) : Bool :=
  match doc.getLast? with
  | none => false
  | some comment => comment.hasNolint

def isGeneratedLine (line : List Char) : Bool :=
  match Text.afterLead? "// Code generated ".toList line with
  | none => false
  | some rest => (Text.beforeTail? " DO NOT EDIT.".toList rest).isSome

def Comment.marksGenerated (comment : Comment) : Bool :=
  (Text.pieces '\n' comment.text.toList).any isGeneratedLine

end Fluent
