import Fluent.Analyzer.Behavior
import Fluent.Index.Collect
import Fluent.Obligation.Basic

/-! Diagnostics. -/

set_option autoImplicit false

namespace Fluent

open Text (Bytes)

structure Diagnostic where
  place : Place
  message : Bytes
  related : Option (Place × String)
  deriving DecidableEq

structure Wording where
  /-- The start of the default message; the empty text stands for the usual one. -/
  lead : String
  behavior : Behavior

def defaultLead : String := "Method chain must end with"

/-- List method names, as in `A(), B() or C()`. -/
def listNames : List String → String
  | [] => ""
  | [name] => name ++ "()"
  | [name, last] => name ++ "() or " ++ last ++ "()"
  | name :: names => name ++ "(), " ++ listNames names

namespace Wording

/-- The message of an obligation: its own, or one that lists the methods that complete it. -/
def message (wording : Wording) (obligation : Obligation) : Bytes :=
  if obligation.message.isEmpty then
    let lead := if wording.lead = "" then defaultLead else wording.lead
    match obligation.facts.names with
    | [] => .ofString (lead ++ " a terminal method")
    | names => .ofString (lead ++ " " ++ listNames names)
  else obligation.message

end Wording

/-- What to say about the place where a builder is lost. -/
def Usage.relatedMessage? : Usage → Option String
  | .statement => some "Result discarded here"
  | .argument => some "Passed as a non-builder argument here"
  | .returned | .closure => some "Returned as a non-builder here"
  | .reference => some "Used as a function value here"
  | .escape => some "Builder consumed here"
  | .assignment | .other => none

/-- The diagnostic of an obligation in a numbered file, if it is violated. -/
def Obligation.diagnostic? (wording : Wording) (file : Nat) (obligation : Obligation) :
    Option Diagnostic :=
  match obligation.outcome with
  | .violated usage node =>
    let related :=
      if wording.behavior.enabled Behavior.relatedInformation then
        node.bind fun node => usage.relatedMessage?.map fun message =>
          ({ file, start := node.start, stop := some node.stop }, message)
      else none
    some
      { place := { file, start := obligation.start, stop := some obligation.stop }
        message := wording.message obligation
        related }
  | _ => none

def diagnostics (wording : Wording) (file : Nat) (obligations : List Obligation) : List Diagnostic :=
  obligations.filterMap (Obligation.diagnostic? wording file)

def Declaration.diagnostic (declaration : Declaration) : Diagnostic :=
  { place := declaration.place, message := .ofString declaration.message, related := none }

/-- Put texts in place of `%s`. A percent sign is written `%%`. A text that is missing or left
over, or a percent sign that ends the text, is noted in the result. -/
def fillTemplate : List Char → List String → List Char
  | [], [] => []
  | [], args => ("%!(EXTRA " ++ String.intercalate ", " (args.map ("string=" ++ ·)) ++ ")").toList
  | ['%'], args => "%!(NOVERB)".toList ++ fillTemplate [] args
  | '%' :: '%' :: rest, args => '%' :: fillTemplate rest args
  | '%' :: 's' :: rest, arg :: args => arg.toList ++ fillTemplate rest args
  | '%' :: 's' :: rest, [] => "%!s(MISSING)".toList ++ fillTemplate rest []
  | c :: rest, args => c :: fillTemplate rest args

def internalError (place : Place) (template : String) (args : List String) : Diagnostic :=
  { place
    message := .ofString ("Internal Error: " ++ String.ofList (fillTemplate template.toList args))
    related := none }

end Fluent
