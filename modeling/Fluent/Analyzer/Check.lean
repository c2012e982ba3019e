import Fluent.Analyzer.Setting
import Fluent.Chain.Extract
import Fluent.Index.Build
import Fluent.Obligation.Resolve
import Fluent.Report
import Fluent.Rule.File

/-! Checking the packages of a program. -/

set_option autoImplicit false

namespace Fluent

def analyzerDoc : String :=
  linterName ++ " reports fluent call chains that never reach a terminal method"

def analyzerUrl : String := "https://pkg.go.dev/fillmore-labs.com/" ++ linterName

inductive CheckError where
  /-- The syntax trees were not handed over. -/
  | resultMissing
  | invalidRules (errors : List RuleError)
  | rulesFile (path : String) (error : LoadError)

def CheckError.message : CheckError → String
  | .resultMissing => linterName ++ ": inspect analyzer result missing"
  | .invalidRules errors => linterName ++ ": " ++ joinErrors errors
  | .rulesFile path error => linterName ++ ": " ++ error.message path

namespace Configuration

variable (configuration : Configuration)

def wording : Wording :=
  { lead := configuration.lead, behavior := configuration.behavior }

/-- All rules of a configuration: its own, and behind them those of its rules file. -/
def allRules (decode : RulesDecoder) (files : String → Option String) : Except CheckError RuleSet :=
  if configuration.rules.errors ≠ [] then .error (.invalidRules configuration.rules.errors)
  else if configuration.rulesFile = "" then .ok configuration.rules
  else
    match loadRules decode (files configuration.rulesFile) with
    | .error error => .error (.rulesFile configuration.rulesFile error)
    | .ok loaded => .ok (configuration.rules.merge loaded)

def skips (file : SourceFile) : Bool :=
  (file.generated && !configuration.behavior.enabled Behavior.includeGenerated) ||
    docHasNolint file.doc

def checkFile (markers : Markers) (number : Nat) (file : SourceFile) : Inquiry (List Diagnostic) :=
  if file.lines.isNone then
    return [internalError { file := number, start := file.start, stop := some file.stop }
      "File %s without valid info" [file.packageName]]
  else if configuration.skips file then return []
  else do
    let chains ← Scene.chains { markers, file }
    let obligations ← Chain.allObligations markers chains
    return diagnostics configuration.wording number obligations

/-- The diagnostics of files, the first of which has the number `number`. -/
def checkFiles (markers : Markers) (number : Nat) : List SourceFile → Inquiry (List Diagnostic)
  | [] => return []
  | file :: files => do
    let first ← configuration.checkFile markers number file
    let rest ← checkFiles markers (number + 1) files
    return first ++ rest

def checkPackage (built : Built) (package : Package) : List Diagnostic :=
  (if configuration.behavior.enabled Behavior.reportDeclarations
    then built.declarations.map Declaration.diagnostic else []) ++
    (built.index.run (configuration.checkFiles built.index.markers 0 package.files) built.memo).1

end Configuration

structure PackageReport where
  diagnostics : List Diagnostic
  exported : MarkerTable

/-- What the host of the analyzer provides. -/
structure Host where
  /-- Are the syntax trees handed over? -/
  inspected : Bool
  /-- Are the markers of a package handed on to those after it? -/
  sharing : Bool
  /-- The contents of the files that exist. -/
  files : String → Option String
  decode : RulesDecoder
  /-- In which order the types of a package are visited; nothing is promised about it. -/
  orders : PackageId → VisitOrder

namespace Program

variable (program : Program) (configuration : Configuration)

/-- Check all packages of a program by valid rules. -/
def checkBy (rules : RuleSet) (sharing : Bool) (orders : PackageId → VisitOrder) : List PackageReport :=
  ((program.buildAll rules sharing orders).zip program.packages).map fun (built, package) =>
    { diagnostics := configuration.checkPackage built package, exported := built.exported }

/-- Check all packages of a program. An error in the configuration is one in each package. -/
def check (host : Host) : List (Except CheckError PackageReport) :=
  match if host.inspected then configuration.allRules host.decode host.files else .error .resultMissing with
  | .ok rules => (program.checkBy configuration rules host.sharing host.orders).map .ok
  | .error error => program.packages.map fun _ => .error error

end Program

end Fluent
