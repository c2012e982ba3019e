import Fluent.Text.Name
import Fluent.Text.Quoted

/-! Markers of functions: what a function contributes to a call chain. -/

set_option autoImplicit false

namespace Fluent

open Text (Bytes)

inductive MarkerKind where
  | none
  /-- Completes a chain. -/
  | terminal
  /-- Starts a chain. -/
  | entryPoint
  /-- Chains started by it or written in its body are not checked. -/
  | ignore
  deriving DecidableEq

def MarkerKind.label : MarkerKind → String
  | .none => "none"
  | .terminal => "end"
  | .entryPoint => "start"
  | .ignore => "ignore"

/-- The kinds in the order of their numbers. -/
def MarkerKind.all : List MarkerKind := [.none, .terminal, .entryPoint, .ignore]

def MarkerKind.labelOf (number : Nat) : String :=
  numberedLabel "Kind" (all.map label) number

structure Marker where
  kind : MarkerKind
  /-- What an entry point reports in place of the default message, if not empty. -/
  message : Bytes
  deriving DecidableEq

def Marker.unmarked : Marker := { kind := .none, message := [] }

/-- The text of a marker: its kind and, unless empty, its message in quotes. -/
def describeMarker (kind : String) (message : Bytes) : String :=
  if message.isEmpty then kind else kind ++ " " ++ String.ofList (Text.quote message)

def Marker.render (marker : Marker) : String :=
  describeMarker marker.kind.label marker.message

end Fluent
