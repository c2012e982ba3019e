import Fluent.Analyzer.Setting
import Fluent.Text.Name

/-! Settings given by a linter host as a value without a fixed shape.

Field names match without regard to case, and a field that is not known is an error. Fields
are taken in the order of their names, so of two that match one setting the later counts. -/

set_option autoImplicit false

namespace Fluent

inductive HostValue where
  | null
  | bool (value : Bool)
  | number
  | text (value : String)
  | list (elements : List HostValue)
  | object (fields : List (String × HostValue))

/-- A list that can be filled again. Cells beyond its length are out of sight and keep what they
held. -/
structure Cells (α : Type) where
  cells : List α
  length : Nat

namespace Cells

variable {α : Type}

def empty : Cells α := { cells := [], length := 0 }

def toList (list : Cells α) : List α := list.cells.take list.length

/-- Change cells by values one after another; `blank` is what a new cell holds. -/
def update (change : α → HostValue → Option α) (blank : α) :
    List α → List HostValue → Option (List α)
  | cells, [] => some cells
  | [], value :: values =>
    (change blank value).bind fun cell => (update change blank [] values).map (cell :: ·)
  | cell :: cells, value :: values =>
    (change cell value).bind fun cell => (update change blank cells values).map (cell :: ·)

def fill (change : α → HostValue → Option α) (blank : α) (list : Cells α) :
    HostValue → Option (Cells α)
  | .null => some empty
  | .list [] => some empty
  | .list values =>
    (update change blank list.cells values).map fun cells => { cells, length := values.length }
  | _ => none

end Cells

structure HostEntry where
  func : String
  message : String

structure HostSettings where
  declarations : Option Bool
  related : Option Bool
  rules : Option String
  lead : Option String
  terminals : Cells String
  entryPoints : Cells HostEntry
  ignored : Cells String

namespace HostSettings

def empty : HostSettings :=
  { declarations := none, related := none, rules := none, lead := none
    terminals := .empty, entryPoints := .empty, ignored := .empty }

def readBool : HostValue → Option (Option Bool)
  | .null => some none
  | .bool value => some (some value)
  | _ => none

def readText : HostValue → Option (Option String)
  | .null => some none
  | .text value => some (some value)
  | _ => none

/-- A text in place of another one, which null leaves as it is. -/
def replaceText (old : String) : HostValue → Option String
  | .null => some old
  | .text value => some value
  | _ => none

/-- The field of a list of names that a key matches, an exact match first. -/
def matchField? (names : List String) (key : String) : Option String :=
  if key ∈ names then some key else names.find? fun name => Text.matchesName name key

def setEntryField (entry : HostEntry) (key : String) (value : HostValue) : Option HostEntry :=
  match matchField? ["func", "message"] key with
  | some "func" => (replaceText entry.func value).map fun func => { entry with func }
  | some "message" => (replaceText entry.message value).map fun message => { entry with message }
  | _ => none

/-- Set fields in the order of their names. -/
def setFields {α : Type} (set : α → String → HostValue → Option α) (record : α)
    (fields : List (String × HostValue)) : Option α :=
  (sortByKey Prod.fst fields).foldlM (fun record (key, value) => set record key value) record

def replaceEntry (entry : HostEntry) : HostValue → Option HostEntry
  | .null => some entry
  | .object fields => setFields setEntryField entry fields
  | _ => none

def fieldNames : List String :=
  ["declarations", "related", "rules", "message-prefix", "terminals", "entry-points", "ignore"]

def setField (settings : HostSettings) (key : String) (value : HostValue) : Option HostSettings :=
  match matchField? fieldNames key with
  | some "declarations" => (readBool value).map fun declarations => { settings with declarations }
  | some "related" => (readBool value).map fun related => { settings with related }
  | some "rules" => (readText value).map fun rules => { settings with rules }
  | some "message-prefix" => (readText value).map fun lead => { settings with lead }
  | some "terminals" =>
    (settings.terminals.fill replaceText "" value).map fun terminals => { settings with terminals }
  | some "entry-points" =>
    (settings.entryPoints.fill replaceEntry ⟨"", ""⟩ value).map fun entryPoints =>
      { settings with entryPoints }
  | some "ignore" =>
    (settings.ignored.fill replaceText "" value).map fun ignored => { settings with ignored }
  | _ => none

def ofValue? : HostValue → Option HostSettings
  | .null => some empty
  | .object fields => setFields setField empty fields
  | _ => none

def settings (host : HostSettings) : List Setting :=
  host.declarations.toList.map .declarations ++ host.related.toList.map .related ++
    host.rules.toList.map .rulesFile ++ host.lead.toList.map .lead ++
    host.terminals.toList.map .terminal ++
    host.entryPoints.toList.map (fun entry => .entryPoint entry.func entry.message) ++
    host.ignored.toList.map .ignore

/-- The configuration that a host asks for. The host decides about generated files itself, so
they are checked. -/
def configuration (host : HostSettings) : Configuration :=
  SettingTree.configuration
    (.group ((host.settings.map .single) ++ [.single (.generated true)]))

end HostSettings

/-- What a host has to load for the analyzer: the types of all expressions. -/
def hostLoadMode : String := "typesinfo"

end Fluent
