import Fluent.Rule.Validation

/-! Rules files. The format of a rules file is up to a decoder.

A key that the decoder has no use for is an error, so that a misspelt one does not go unnoticed. -/

set_option autoImplicit false

namespace Fluent

/-- What a decoder finds in a rules file: rules, and the keys that it has no use for, as it shows them. -/
structure DecodedRules where
  rules : RuleSet
  undecoded : List String

/-- Reads the text of a rules file. It finds nothing in a text that is malformed. -/
abbrev RulesDecoder := String → Option DecodedRules

inductive LoadError where
  | notFound
  | malformed
  | unknownKeys (keys : List String)
  | invalid (errors : List RuleError)

def LoadError.message (path : String) : LoadError → String
  | .notFound => path ++ ": failed to parse TOML: open " ++ path ++ ": no such file or directory"
  | .malformed => path ++ ": failed to parse TOML"
  | .unknownKeys keys => path ++ ": invalid rule: unknown keys " ++ String.intercalate ", " keys
  | .invalid errors => path ++ ": " ++ joinErrors errors

/-- Read a rules file and check its rules; `content` is missing if the file is. -/
def loadRules (decode : RulesDecoder) (content : Option String) : Except LoadError RuleSet :=
  match content with
  | none => .error .notFound
  | some content =>
    match decode content with
    | none => .error .malformed
    | some decoded =>
      if decoded.undecoded ≠ [] then .error (.unknownKeys decoded.undecoded)
      else if decoded.rules.errors ≠ [] then .error (.invalid decoded.rules.errors)
      else .ok decoded.rules

end Fluent
