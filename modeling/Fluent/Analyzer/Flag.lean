import Fluent.Analyzer.Setting
import Fluent.Text.Quoted

/-! Command-line flags, by which a configuration can be changed after it was made. -/

set_option autoImplicit false

namespace Fluent

inductive Flag where
  | generated
  | declarations
  | related
  | rules
  | lead
  deriving DecidableEq

inductive FlagValue where
  | switch (on : Bool)
  | text (text : String)
  deriving DecidableEq

def FlagValue.render : FlagValue → String
  | .switch true => "true"
  | .switch false => "false"
  | .text content => content

namespace Flag

def all : List Flag := [.generated, .declarations, .related, .rules, .lead]

def name : Flag → String
  | .generated => "generated"
  | .declarations => "declarations"
  | .related => "related"
  | .rules => "rules"
  | .lead => "message-prefix"

def named? (name : String) : Option Flag :=
  all.find? fun flag => flag.name = name

/-- A switch may be given without a value. -/
def isSwitch : Flag → Bool
  | .generated | .declarations | .related => true
  | .rules | .lead => false

def value (configuration : Configuration) : Flag → FlagValue
  | .generated => .switch (configuration.behavior.enabled Behavior.includeGenerated)
  | .declarations => .switch (configuration.behavior.enabled Behavior.reportDeclarations)
  | .related => .switch (configuration.behavior.enabled Behavior.relatedInformation)
  | .rules => .text configuration.rulesFile
  | .lead => .text configuration.lead

end Flag

def readSwitch? (text : String) : Option Bool :=
  if text ∈ ["1", "t", "T", "true", "TRUE", "True", "on", "On", "ON"] then some true
  else if text ∈ ["0", "f", "F", "false", "FALSE", "False", "off", "Off", "OFF"] then some false
  else none

/-- The setting that a flag with a value makes. -/
def Flag.setting? (flag : Flag) (text : String) : Option Setting :=
  match flag with
  | .generated => (readSwitch? text).map .generated
  | .declarations => (readSwitch? text).map .declarations
  | .related => (readSwitch? text).map .related
  | .rules => some (.rulesFile text)
  | .lead => some (.lead text)

inductive FlagError where
  | noSuchFlag (name : String)
  | notASwitch (text : String)
  | badForm (argument : String)
  | helpRequested
  | notDefined (name : String)
  | badValue (flag : Flag) (text : String)
  | needsArgument (flag : Flag)
  deriving DecidableEq

namespace FlagError

def quoted (text : String) : String :=
  String.ofList (Text.quote (.ofString text))

/-- What is wrong with the text of a switch. -/
def switchMessage (text : String) : String :=
  "strconv.ParseBool: parsing " ++ quoted text ++ ": invalid syntax"

def message : FlagError → String
  | .noSuchFlag name => "no such flag -" ++ name
  | .notASwitch text => switchMessage text
  | .badForm argument => "bad flag syntax: " ++ argument
  | .helpRequested => "flag: help requested"
  | .notDefined name => "flag provided but not defined: -" ++ name
  | .badValue flag text =>
    "invalid boolean value " ++ quoted text ++ " for -" ++ flag.name ++ ": " ++ switchMessage text
  | .needsArgument flag => "flag needs an argument: -" ++ flag.name

end FlagError

def Configuration.setFlag (configuration : Configuration) (name text : String) :
    Except FlagError Configuration :=
  match Flag.named? name with
  | none => .error (.noSuchFlag name)
  | some flag =>
    match flag.setting? text with
    | some setting => .ok (setting.apply configuration)
    | none => .error (.notASwitch text)

inductive Argument where
  /-- Not a flag; it ends the flags. -/
  | plain
  /-- The mark `--`, which ends the flags and is dropped. -/
  | stop
  | malformed
  /-- A flag, with a value if one follows after an equals sign. -/
  | flag (name : String) (value : Option String)
  deriving DecidableEq

/-- The name and the value of a flag without its dashes. -/
def readFlag (text : List Char) : Argument :=
  match text with
  | [] => .malformed
  | first :: rest =>
    if first = '-' ∨ first = '=' then .malformed
    else
      let name := rest.takeWhile (· ≠ '=')
      match rest.dropWhile (· ≠ '=') with
      | _ :: value => .flag (String.ofList (first :: name)) (some (String.ofList value))
      | [] => .flag (String.ofList (first :: name)) none

/-- What an argument is; one dash or two mark a flag. -/
def readArgument (argument : String) : Argument :=
  match argument.toList with
  | ['-', '-'] => .stop
  | '-' :: '-' :: text => readFlag text
  | '-' :: c :: text => readFlag (c :: text)
  | _ => .plain

/-- What is left of a command line after its flags, and what went wrong. -/
structure Parsed where
  configuration : Configuration
  rest : List String
  error : Option FlagError
  deriving DecidableEq

/-- Take the flags at the start of a command line. The first error ends it. -/
def Configuration.parseFlags (configuration : Configuration) : List String → Parsed
  | [] => { configuration, rest := [], error := none }
  | argument :: arguments =>
    match readArgument argument with
    | .plain => { configuration, rest := argument :: arguments, error := none }
    | .stop => { configuration, rest := arguments, error := none }
    | .malformed =>
      { configuration, rest := argument :: arguments, error := some (.badForm argument) }
    | .flag name value =>
      match Flag.named? name with
      | none =>
        { configuration
          rest := arguments
          error := some (if name = "help" ∨ name = "h" then .helpRequested else .notDefined name) }
      | some flag =>
        match (if flag.isSwitch then some (value.getD "true") else value) with
        | some text =>
          match flag.setting? text with
          | some setting => (setting.apply configuration).parseFlags arguments
          | none => { configuration, rest := arguments, error := some (.badValue flag text) }
        | none =>
          match arguments with
          | [] => { configuration, rest := [], error := some (.needsArgument flag) }
          | text :: arguments =>
            match flag.setting? text with
            | some setting => (setting.apply configuration).parseFlags arguments
            | none => { configuration, rest := arguments, error := some (.badValue flag text) }

end Fluent
