import Fluent.Marker.Basic
import Fluent.Source.Comment

/-! Directives: comments that mark the function declared below them. -/

set_option autoImplicit false

namespace Fluent

open Text (Bytes)

/-- Why the text after `//endcheck:` is no directive. -/
inductive DirectiveError where
  | takesNoArguments (kind : MarkerKind)
  | malformedMessage
  | unknownVerb (verb : List Char)
  deriving DecidableEq

def DirectiveError.message : DirectiveError → String
  | .takesNoArguments kind => "endcheck:" ++ kind.label ++ " takes no arguments"
  | .malformedMessage => "malformed endcheck:start message: invalid syntax"
  | .unknownVerb verb => "unknown directive endcheck:" ++ String.ofList verb

/-- A message is a string literal or the rest of the line as it stands. -/
def parseMessage? (text : List Char) : Option Bytes :=
  match text with
  | '"' :: _ => Text.unquote? text
  | '\x60' :: _ => Text.unquote? text
  | _ => some (.ofChars text)

/-- Read the text after `//endcheck:`, a verb and the rest of the line. -/
def parseDirective (text : List Char) : Except DirectiveError Marker :=
  let (verb, rest) := (Text.cut? [' '] text).getD (text, [])
  let argument := Text.trim rest
  if verb = "end".toList then
    if argument.isEmpty then .ok { kind := .terminal, message := [] }
    else .error (.takesNoArguments .terminal)
  else if verb = "ignore".toList then
    if argument.isEmpty then .ok { kind := .ignore, message := [] }
    else .error (.takesNoArguments .ignore)
  else if verb = "start".toList then
    match parseMessage? argument with
    | some message => .ok { kind := .entryPoint, message }
    | none => .error .malformedMessage
  else .error (.unknownVerb verb)

/-- The directive that a comment is, if it is addressed to this linter. -/
def Comment.directive? (comment : Comment) : Option (Except DirectiveError Marker) :=
  (Text.afterLead? ("//" ++ linterName ++ ":").toList comment.text.toList).map parseDirective

/-- The directives of a comment group with the offsets of their comments. -/
def directives (doc : CommentGroup) : List (Nat × Marker) :=
  doc.filterMap fun comment =>
    match comment.directive? with
    | some (.ok marker) => some (comment.start, marker)
    | _ => none

/-- The comments of a group that fail to be directives, with the reason. -/
def directiveErrors (doc : CommentGroup) : List (Comment × DirectiveError) :=
  doc.filterMap fun comment =>
    match comment.directive? with
    | some (.error error) => some (comment, error)
    | _ => none

end Fluent
