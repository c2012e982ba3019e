import Fluent.Proofs.Index.Provenance
import Fluent.Proofs.Text.Cut
import Fluent.Proofs.Text.Quoted

/-! Markers and the texts of directives.

The text of a marker is a directive itself: its verb ends at the first space, and the quotes
around a message keep what is in it from being cut or trimmed. So a marker that a directive
gives is read from its own text again, however the directive has spelled the message. -/

set_option autoImplicit false

namespace Fluent

open Text (Bytes)

theorem Text.trimmed_quote (bytes : Bytes) : Text.Trimmed (Text.quote bytes) := by
  have solid : Text.isBlank '"' = false := by decide
  constructor
  · intro c first
    cases first
    exact solid
  · intro c last
    rw [Text.quote, ← List.cons_append, List.getLast?_concat] at last
    cases last
    exact solid

theorem parseMessage?_quote (bytes : Bytes) : parseMessage? (Text.quote bytes) = some bytes := by
  rw [Text.quote, parseMessage?, ← Text.quote, Text.unquote?_quote]

theorem parseDirective_start (argument : List Char) :
    parseDirective ("start".toList ++ ' ' :: argument) =
      match parseMessage? (Text.trim argument) with
      | some message => .ok { kind := .entryPoint, message }
      | none => .error .malformedMessage := by
  have parts : Text.cut? [' '] ("start".toList ++ ' ' :: argument) =
      some ("start".toList, argument) := rfl
  rw [parseDirective, parts]
  rfl

namespace Marker

theorem toList_render_quoted {message : Bytes} (given : message ≠ []) :
    (Marker.render { kind := .entryPoint, message }).toList =
      "start".toList ++ ' ' :: Text.quote message := by
  have present : message.isEmpty = false := by simpa using given
  simp [Marker.render, describeMarker, present, MarkerKind.label, String.toList_append]

theorem Proper.parseDirective_render {marker : Marker} (proper : marker.Proper) :
    parseDirective marker.render.toList = .ok marker := by
  obtain ⟨kind, message⟩ := marker
  by_cases given : message = []
  · subst given
    cases kind with
    | none => exact (proper.marked rfl).elim
    | terminal => decide +kernel
    | entryPoint => decide +kernel
    | ignore => decide +kernel
  · obtain rfl : kind = .entryPoint := proper.message given
    rw [toList_render_quoted given, parseDirective_start,
      Text.trim_eq_self (Text.trimmed_quote message), parseMessage?_quote]

theorem proper_iff (marker : Marker) :
    marker.Proper ↔
      (marker.kind = .terminal ∨ marker.kind = .ignore) ∧ marker.message = [] ∨
        marker.kind = .entryPoint := by
  constructor
  · intro proper
    cases kind : marker.kind with
    | none => exact (proper.marked kind).elim
    | entryPoint => exact Or.inr rfl
    | terminal | ignore =>
      have plain : marker.message = [] := by
        by_contra given
        simpa [kind] using proper.message given
      simp [plain]
  · rintro (⟨kind, plain⟩ | kind)
    · exact ⟨by rcases kind with kind | kind <;> simp [kind], fun given => (given plain).elim⟩
    · exact ⟨by simp [kind], fun _ => kind⟩

/-- The text of a marker is read as the marker itself, whatever bytes its message is made of, in
exactly the cases in which directives can give it. So what a directive gives, from a message in
quotes, in back quotes or as it stands, is given by the marker's text too. -/
theorem directive_round_trip :
    (∀ marker : Marker, parseDirective marker.render.toList = .ok marker ↔
      (marker.kind = .terminal ∨ marker.kind = .ignore) ∧ marker.message = [] ∨
        marker.kind = .entryPoint) ∧
    ∀ (text : List Char) (marker : Marker), parseDirective text = .ok marker →
      parseDirective marker.render.toList = .ok marker := by
  constructor
  · intro marker
    rw [← marker.proper_iff]
    exact ⟨parseDirective_proper, Proper.parseDirective_render⟩
  · intro text marker read
    exact (parseDirective_proper read).parseDirective_render

end Marker

namespace Sample

/-- A message of a quote, a line break, a byte that belongs to no character and an `ä` is read back.
What stands in back quotes, with a backslash that is no escape there, comes back in quotes. -/
theorem unruly_messages_round_trip :
    parseDirective (Marker.render { kind := .entryPoint, message := [34, 10, 255, 195, 164] }).toList =
        .ok { kind := .entryPoint, message := [34, 10, 255, 195, 164] } ∧
      parseDirective "start   \x60say \\n \x60 ".toList =
        .ok { kind := .entryPoint, message := .ofString "say \\n " } ∧
      parseDirective (Marker.render { kind := .entryPoint, message := .ofString "say \\n " }).toList =
        .ok { kind := .entryPoint, message := .ofString "say \\n " } := by
  have read : parseDirective "start   \x60say \\n \x60 ".toList =
      .ok { kind := .entryPoint, message := .ofString "say \\n " } := by decide +kernel
  exact ⟨(Marker.directive_round_trip.1 _).mpr (Or.inr rfl), read,
    Marker.directive_round_trip.2 _ _ read⟩

end Sample

end Fluent
