import Fluent.Analyzer.Behavior
import Fluent.Rule.Basic

/-! Configurations of the analyzer, and the settings that make them up. -/

set_option autoImplicit false

namespace Fluent

structure Configuration where
  behavior : Behavior
  rules : RuleSet
  /-- The path of a rules file; the empty path stands for none. -/
  rulesFile : String
  /-- The start of the default message; the empty text stands for the usual one. -/
  lead : String
  deriving DecidableEq

def Configuration.default : Configuration :=
  { behavior := .default, rules := .none, rulesFile := "", lead := "" }

inductive Setting where
  | generated (on : Bool)
  | declarations (on : Bool)
  | related (on : Bool)
  | rulesFile (path : String)
  | terminal (name : String)
  | entryPoint (name message : String)
  | ignore (name : String)
  | lead (text : String)
  deriving DecidableEq

namespace Setting

/-- Switches and texts replace what was there, and rules come behind those present. -/
def apply (configuration : Configuration) : Setting → Configuration
  | .generated on =>
    { configuration with
      behavior := configuration.behavior.set Behavior.includeGenerated on }
  | .declarations on =>
    { configuration with
      behavior := configuration.behavior.set Behavior.reportDeclarations on }
  | .related on =>
    { configuration with
      behavior := configuration.behavior.set Behavior.relatedInformation on }
  | .rulesFile path => { configuration with rulesFile := path }
  | .terminal name =>
    { configuration with
      rules := configuration.rules.merge { RuleSet.none with terminals := [⟨name, ""⟩] } }
  | .entryPoint name message =>
    { configuration with
      rules := configuration.rules.merge { RuleSet.none with entryPoints := [⟨name, message⟩] } }
  | .ignore name =>
    { configuration with
      rules := configuration.rules.merge { RuleSet.none with ignored := [⟨name, ""⟩] } }
  | .lead text => { configuration with lead := text }

end Setting

inductive LogValue where
  | switch (on : Bool)
  | text (text : String)
  | group (members : List (String × String))
  deriving DecidableEq

structure LogEntry where
  key : String
  value : LogValue
  deriving DecidableEq

def Setting.logEntry : Setting → LogEntry
  | .generated on => ⟨"generated", .switch on⟩
  | .declarations on => ⟨"declarations", .switch on⟩
  | .related on => ⟨"related", .switch on⟩
  | .rulesFile path => ⟨"rules", .text path⟩
  | .terminal name => ⟨"terminal", .text name⟩
  | .entryPoint name message => ⟨"entry-point", .group [("func", name), ("message", message)]⟩
  | .ignore name => ⟨"ignore", .text name⟩
  | .lead text => ⟨"message-prefix", .text text⟩

/-- Settings in nested lists, in which some may be missing. -/
inductive SettingTree where
  | absent
  | single (setting : Setting)
  | group (members : List SettingTree)

namespace SettingTree

mutual

/-- Apply the settings of a tree from left to right. -/
def apply (configuration : Configuration) : SettingTree → Configuration
  | .absent => configuration
  | .single setting => setting.apply configuration
  | .group members => applyAll configuration members

def applyAll (configuration : Configuration) : List SettingTree → Configuration
  | [] => configuration
  | tree :: trees => applyAll (tree.apply configuration) trees

end

mutual

/-- What a log shows of a tree: one entry for each place where a setting stands or is missing. -/
def logEntries : SettingTree → List LogEntry
  | .absent => [⟨"nil", .text "<nil>"⟩]
  | .single setting => [setting.logEntry]
  | .group members => logEntriesOf members

def logEntriesOf : List SettingTree → List LogEntry
  | [] => []
  | tree :: trees => tree.logEntries ++ logEntriesOf trees

end

def configuration (tree : SettingTree) : Configuration :=
  tree.apply .default

end SettingTree

end Fluent
