import Fluent.QualifiedName
import Fluent.Rule.Basic

/-! Defects of rules. -/

set_option autoImplicit false

namespace Fluent

inductive RuleSection where
  | terminal
  | entryPoint
  | ignore
  deriving DecidableEq

def RuleSection.label : RuleSection → String
  | .terminal => "terminal"
  | .entryPoint => "start"
  | .ignore => "ignore"

inductive RuleDefect where
  | badName (error : NameError)
  | notAMethod (name : QualifiedName)
  | messageNotAllowed
  deriving DecidableEq

def RuleDefect.message : RuleDefect → String
  | .badName error => error.message
  | .notAMethod name => name.render ++ " is not a method"
  | .messageNotAllowed => "message is only allowed for entry points"

structure RuleError where
  sec : RuleSection
  /-- The place of the rule in its section, counted from one. -/
  number : Nat
  defect : RuleDefect
  deriving DecidableEq

def RuleError.message (error : RuleError) : String :=
  "invalid rule: [[" ++ error.sec.label ++ "]] #" ++ toString error.number ++ ": " ++
    error.defect.message

/-- The defects of a rule. A name that cannot be read hides the others. -/
def Rule.defects (sec : RuleSection) (rule : Rule) : List RuleDefect :=
  match QualifiedName.parse rule.func with
  | .error error => [.badName error]
  | .ok name =>
    (if sec = .terminal ∧ name.receiver = none then [.notAMethod name] else []) ++
      if sec ≠ .entryPoint ∧ rule.message ≠ "" then [.messageNotAllowed] else []

/-- The errors of the rules of a section, the first of which has the number `number`. -/
def sectionErrors (sec : RuleSection) (number : Nat) : List Rule → List RuleError
  | [] => []
  | rule :: rules =>
    (rule.defects sec).map (fun defect => { sec, number, defect }) ++
      sectionErrors sec (number + 1) rules

def RuleSet.errors (rules : RuleSet) : List RuleError :=
  sectionErrors .terminal 1 rules.terminals ++
    (sectionErrors .entryPoint 1 rules.entryPoints ++ sectionErrors .ignore 1 rules.ignored)

def joinErrors (errors : List RuleError) : String :=
  String.intercalate "; " (errors.map RuleError.message)

inductive RuleFinding where
  | defective (error : RuleError)
  /-- That there is an error at all. -/
  | invalid
  /-- The cause of an error alone. -/
  | cause (error : NameError)
  deriving DecidableEq

namespace RuleFinding

def message : RuleFinding → String
  | .defective error => error.message
  | .invalid => "invalid rule"
  | .cause error => error.message

def isInvalidRule : RuleFinding → Bool
  | .cause _ => false
  | _ => true

/-- Does a finding say that a name cannot be read? -/
def isInvalidName : RuleFinding → Bool
  | .defective { defect := .badName _, .. } => true
  | .cause _ => true
  | _ => false

end RuleFinding

/-- The findings on rules. A single error is taken apart into itself and its cause. -/
def ruleFindings : List RuleError → List RuleFinding
  | [{ defect := .badName error, .. }] => [.invalid, .cause error]
  | errors => errors.map .defective

end Fluent
