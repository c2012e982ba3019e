import Fluent.Rule.File
import Fluent.Text.Name
import Fluent.Toml.Document

/-! Rules as a TOML document with the tables `terminal`, `start` and `ignore`. Keys match without
regard to case. -/

set_option autoImplicit false

namespace Fluent

def RuleSection.ofKey? (key : String) : Option RuleSection :=
  [RuleSection.terminal, .entryPoint, .ignore].find? fun sec => Text.matchesName sec.label key

/-- The rule that a table describes. -/
def Rule.ofEntries? : Toml.Table → Option Rule
  | [] => some { func := "", message := "" }
  | (key, value) :: entries =>
    (Rule.ofEntries? entries).bind fun rule =>
      if Text.matchesName "func" key then
        match value with
        | .string text => some { rule with func := text }
        | _ => none
      else if Text.matchesName "message" key then
        match value with
        | .string text => some { rule with message := text }
        | _ => none
      else some rule

/-- The tables that a section consists of, written either way. -/
def sectionTables? : Toml.Value → Option (List Toml.Table)
  | .array elements =>
    elements.mapM fun
      | .table entries => some entries
      | _ => none
  | .tables earlier latest => some (earlier ++ [latest])
  | _ => none

namespace RuleSet

def withSection (rules : RuleSet) (sec : RuleSection) (list : List Rule) : RuleSet :=
  match sec with
  | .terminal => { rules with terminals := list }
  | .entryPoint => { rules with entryPoints := list }
  | .ignore => { rules with ignored := list }

def ofTable? : Toml.Table → Option RuleSet
  | [] => some none
  | (key, value) :: entries =>
    (ofTable? entries).bind fun rules =>
      match RuleSection.ofKey? key with
      | .none => some rules
      | some sec =>
        (sectionTables? value).bind fun tables =>
          (tables.mapM Rule.ofEntries?).map (rules.withSection sec)

end RuleSet

/-- The keys of a document that mean something to a rule set. -/
def knownKeys (root : Toml.Table) : List Toml.Key :=
  root.flatMap fun (key, value) =>
    if (RuleSection.ofKey? key).isSome then
      [key] :: ((sectionTables? value).getD []).flatMap fun table =>
        (table.filter fun (inner, _) =>
          Text.matchesName "func" inner || Text.matchesName "message" inner).map fun (inner, _) =>
            [key, inner]
    else []

/-- The decoder for rules files in TOML. -/
def Toml.decodeRules : RulesDecoder := fun content =>
  (Toml.Document.read? content).bind fun document =>
    (RuleSet.ofTable? document.root).map fun rules =>
      let known := knownKeys document.root
      { rules
        undecoded := (document.keys.filter fun key => !known.contains key).map Toml.showKey }

end Fluent
