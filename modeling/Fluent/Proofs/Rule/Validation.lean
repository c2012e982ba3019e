import Fluent.Analyzer.Check
import Fluent.Proofs.Index.Ruling
import Fluent.Toml.Rules

/-! What is wrong with rules, and which rules reach the index.

A rule set has one error for each defect of a rule, in the order of the sections and of the rules in
them. Whether a rule has a defect does not depend on other rules, so the errors of two sets add up
when the sets are merged. The rules of a configuration and those of its file are checked apart, and
that is enough: together they are valid, all their names can be read, and only entry points get
messages. -/

set_option autoImplicit false

namespace Fluent

theorem Rule.mem_defects_iff {sec : RuleSection} {rule : Rule} {defect : RuleDefect} :
    defect ∈ rule.defects sec ↔
      (∃ error, QualifiedName.parse rule.func = .error error ∧ defect = .badName error) ∨
      ∃ name, QualifiedName.parse rule.func = .ok name ∧
        (sec = .terminal ∧ name.receiver = none ∧ defect = .notAMethod name ∨
          sec ≠ .entryPoint ∧ rule.message ≠ "" ∧ defect = .messageNotAllowed) := by
  unfold defects
  cases QualifiedName.parse rule.func with
  | error error => simp
  | ok name => simp [and_assoc]

/-- The position of a section among those that are checked. -/
def RuleSection.rank : RuleSection → Nat
  | .terminal => 0
  | .entryPoint => 1
  | .ignore => 2

namespace RuleError

/-- The order in which errors are reported: by sections, then by rules. A name that is not a method's is
reported before the message of its rule. -/
inductive Before (first second : RuleError) : Prop where
  | sec : first.sec.rank < second.sec.rank → Before first second
  | number : first.sec = second.sec → first.number < second.number → Before first second
  | defect (name : QualifiedName) : first.sec = second.sec → first.number = second.number →
      first.defect = .notAMethod name → second.defect = .messageNotAllowed → Before first second

theorem Before.ne {first second : RuleError} (before : Before first second) : first ≠ second := by
  rintro rfl
  cases before with
  | sec less => exact Nat.lt_irrefl _ less
  | number _ less => exact Nat.lt_irrefl _ less
  | defect name _ _ method message => cases method.symm.trans message

end RuleError

section

variable {sec : RuleSection} {number : Nat} {rules : List Rule} {error : RuleError}

theorem mem_sectionErrors_iff : error ∈ sectionErrors sec number rules ↔
    ∃ place rule, rules[place]? = some rule ∧ error.sec = sec ∧ error.number = number + place ∧
      error.defect ∈ rule.defects sec := by
  induction rules generalizing number with
  | nil => simp [sectionErrors]
  | cons rule rules ih =>
    rw [sectionErrors, List.mem_append, ih]
    constructor
    · rintro (first | ⟨place, other, listed, same, count, defect⟩)
      · obtain ⟨defect, member, rfl⟩ := List.mem_map.mp first
        exact ⟨0, rule, rfl, rfl, rfl, member⟩
      · exact ⟨place + 1, other, listed, same, by omega, defect⟩
    · rintro ⟨place, other, listed, rfl, count, defect⟩
      cases place with
      | zero =>
        obtain rfl : rule = other := Option.some.inj listed
        exact Or.inl (List.mem_map.mpr ⟨error.defect, defect, by rw [← Nat.add_zero number, ← count]⟩)
      | succ place => exact Or.inr ⟨place, other, listed, rfl, by omega, defect⟩

theorem defects_pairwise (sec : RuleSection) (number : Nat) (rule : Rule) :
    ((rule.defects sec).map fun defect => ({ sec, number, defect } : RuleError)).Pairwise
      RuleError.Before := by
  unfold Rule.defects
  cases QualifiedName.parse rule.func with
  | error error => simp
  | ok name =>
    simp only [List.map_append]
    refine List.pairwise_append.mpr ⟨by split <;> simp, by split <;> simp, ?_⟩
    intro first isFirst second isSecond
    obtain ⟨function, isFunction, rfl⟩ := List.mem_map.mp isFirst
    obtain ⟨message, isMessage, rfl⟩ := List.mem_map.mp isSecond
    have method : function = .notAMethod name := by
      split at isFunction
      · exact List.mem_singleton.mp isFunction
      · cases isFunction
    have said : message = .messageNotAllowed := by
      split at isMessage
      · exact List.mem_singleton.mp isMessage
      · cases isMessage
    exact .defect name rfl rfl method said

theorem sectionErrors_pairwise (sec : RuleSection) (number : Nat) (rules : List Rule) :
    (sectionErrors sec number rules).Pairwise RuleError.Before := by
  induction rules generalizing number with
  | nil => exact List.Pairwise.nil
  | cons rule rules ih =>
    refine List.pairwise_append.mpr ⟨defects_pairwise sec number rule, ih (number + 1), ?_⟩
    intro first isFirst second isSecond
    obtain ⟨defect, -, rfl⟩ := List.mem_map.mp isFirst
    obtain ⟨place, -, -, same, count, -⟩ := mem_sectionErrors_iff.mp isSecond
    exact .number same.symm (by simp only [count]; omega)

/-- What is wrong with the rules of a section is what is wrong with each of them. -/
theorem defects_sectionErrors (sec : RuleSection) (number : Nat) (rules : List Rule) :
    (sectionErrors sec number rules).map RuleError.defect = rules.flatMap fun rule => rule.defects sec := by
  induction rules generalizing number with
  | nil => rfl
  | cons rule rules ih => simp [sectionErrors, ih, Function.comp_def]

theorem length_sectionErrors_append (sec : RuleSection) (number : Nat) (first second : List Rule) :
    (sectionErrors sec number (first ++ second)).length =
      (sectionErrors sec number first).length + (sectionErrors sec number second).length := by
  have counted (rules : List Rule) : (sectionErrors sec number rules).length =
      (rules.flatMap fun rule => rule.defects sec).length := by
    rw [← defects_sectionErrors sec number, List.length_map]
  rw [counted, counted, counted, List.flatMap_append, List.length_append]

end

namespace RuleSet

def rulesOf (rules : RuleSet) : RuleSection → List Rule
  | .terminal => rules.terminals
  | .entryPoint => rules.entryPoints
  | .ignore => rules.ignored

/-- The defects of a rule set: a name that cannot be read, a terminal method whose name is that of a
function, and a message where none is allowed. Places count from zero, and numbers from one. -/
inductive Defective (rules : RuleSet) : RuleError → Prop where
  | badName {sec : RuleSection} {place : Nat} {rule : Rule} {error : NameError} :
      (rules.rulesOf sec)[place]? = some rule → QualifiedName.parse rule.func = .error error →
      Defective rules { sec, number := place + 1, defect := .badName error }
  | notAMethod {place : Nat} {rule : Rule} {name : QualifiedName} :
      rules.terminals[place]? = some rule → QualifiedName.parse rule.func = .ok name →
      name.receiver = .none →
      Defective rules { sec := .terminal, number := place + 1, defect := .notAMethod name }
  | messageNotAllowed {sec : RuleSection} {place : Nat} {rule : Rule} {name : QualifiedName} :
      sec ≠ .entryPoint → (rules.rulesOf sec)[place]? = some rule →
      QualifiedName.parse rule.func = .ok name → rule.message ≠ "" →
      Defective rules { sec, number := place + 1, defect := .messageNotAllowed }

variable {rules first second : RuleSet} {error : RuleError}

theorem mem_errors_iff_exists_rule : error ∈ rules.errors ↔
    ∃ place rule, (rules.rulesOf error.sec)[place]? = some rule ∧ error.number = place + 1 ∧
      error.defect ∈ rule.defects error.sec := by
  simp only [errors, List.mem_append, mem_sectionErrors_iff, Nat.add_comm 1]
  constructor
  · rintro (⟨place, rule, listed, same, rest⟩ | ⟨place, rule, listed, same, rest⟩ |
      ⟨place, rule, listed, same, rest⟩) <;> rw [same] <;> exact ⟨place, rule, listed, rest⟩
  · rintro ⟨place, rule, listed, rest⟩
    cases same : error.sec with
    | terminal => exact Or.inl ⟨place, rule, by rwa [same] at listed, rfl, by rwa [same] at rest⟩
    | entryPoint => exact Or.inr (Or.inl ⟨place, rule, by rwa [same] at listed, rfl, by rwa [same] at rest⟩)
    | ignore => exact Or.inr (Or.inr ⟨place, rule, by rwa [same] at listed, rfl, by rwa [same] at rest⟩)

theorem mem_errors_iff : error ∈ rules.errors ↔ rules.Defective error := by
  rw [mem_errors_iff_exists_rule]
  constructor
  · obtain ⟨sec, number, defect⟩ := error
    rintro ⟨place, rule, listed, rfl, defect⟩
    rcases Rule.mem_defects_iff.mp defect with ⟨error, read, rfl⟩ | ⟨name, read, rest⟩
    · exact .badName listed read
    · rcases rest with ⟨rfl, function, rfl⟩ | ⟨other, message, rfl⟩
      · exact .notAMethod listed read function
      · exact .messageNotAllowed other listed read message
  · intro defective
    cases defective with
    | badName listed read => exact ⟨_, _, listed, rfl, Rule.mem_defects_iff.mpr (Or.inl ⟨_, read, rfl⟩)⟩
    | notAMethod listed read function =>
      exact ⟨_, _, listed, rfl, Rule.mem_defects_iff.mpr (Or.inr ⟨_, read, Or.inl ⟨rfl, function, rfl⟩⟩)⟩
    | messageNotAllowed other listed read message =>
      exact ⟨_, _, listed, rfl, Rule.mem_defects_iff.mpr (Or.inr ⟨_, read, Or.inr ⟨other, message, rfl⟩⟩)⟩

/-- Errors stand in the order of the sections and of the rules in them. -/
theorem errors_pairwise (rules : RuleSet) : rules.errors.Pairwise RuleError.Before := by
  -- All errors of a section come before all errors of a later one, whatever their numbers.
  have ordered {sec other : RuleSection} {rules others : List Rule} (less : sec.rank < other.rank) :
      ∀ first ∈ sectionErrors sec 1 rules, ∀ second ∈ sectionErrors other 1 others, first.Before second := by
    intro first isFirst second isSecond
    obtain ⟨-, -, -, here, -⟩ := mem_sectionErrors_iff.mp isFirst
    obtain ⟨-, -, -, there, -⟩ := mem_sectionErrors_iff.mp isSecond
    exact .sec (by rwa [here, there])
  refine List.pairwise_append.mpr ⟨sectionErrors_pairwise _ _ _, List.pairwise_append.mpr
    ⟨sectionErrors_pairwise _ _ _, sectionErrors_pairwise _ _ _, ordered (by decide)⟩, ?_⟩
  intro first isFirst second isSecond
  rcases List.mem_append.mp isSecond with isSecond | isSecond
  · exact ordered (by decide) first isFirst second isSecond
  · exact ordered (by decide) first isFirst second isSecond

/-- The errors of two rule sets add up. -/
theorem length_errors_merge (first second : RuleSet) :
    (first.merge second).errors.length = first.errors.length + second.errors.length := by
  simp only [errors, merge, List.length_append, length_sectionErrors_append]
  omega

theorem merge_valid_iff : (first.merge second).errors = [] ↔ first.errors = [] ∧ second.errors = [] := by
  simp only [← List.length_eq_zero_iff, length_errors_merge]
  omega

theorem merge_none (rules : RuleSet) : rules.merge .none = rules := by
  simp [merge, none]

/-- The names of valid rules can be read. -/
theorem parse_of_valid (valid : rules.errors = []) {sec : RuleSection} {rule : Rule}
    (listed : rule ∈ rules.rulesOf sec) : ∃ name, QualifiedName.parse rule.func = .ok name := by
  cases read : QualifiedName.parse rule.func with
  | ok name => exact ⟨name, rfl⟩
  | error error =>
    obtain ⟨place, listed⟩ := List.getElem?_of_mem listed
    have defective := mem_errors_iff.mpr (.badName listed read)
    rw [valid] at defective
    cases defective

theorem names_of_valid (valid : rules.errors = []) (sec : RuleSection) :
    ∃ names : List QualifiedName,
      (rules.rulesOf sec).map (fun rule => QualifiedName.parse rule.func) = names.map .ok := by
  have read : ∀ rule ∈ rules.rulesOf sec, ∃ name, QualifiedName.parse rule.func = .ok name :=
    fun rule => parse_of_valid valid
  -- What follows holds of any list of rules with names that can be read.
  generalize rules.rulesOf sec = list at read
  induction list with
  | nil => exact ⟨[], rfl⟩
  | cons rule list ih =>
    obtain ⟨⟨name, first⟩, rest⟩ := List.forall_mem_cons.mp read
    obtain ⟨names, same⟩ := ih rest
    exact ⟨name :: names, by rw [List.map_cons, List.map_cons, first, same]⟩

theorem exists_section_of_mem_byKind {kind : MarkerKind} {rule : Rule} (listed : (kind, rule) ∈ rules.byKind) :
    ∃ sec, rule ∈ rules.rulesOf sec := by
  rcases mem_byKind.mp listed with ⟨-, listed⟩ | ⟨-, listed⟩ | ⟨-, listed⟩
  · exact ⟨.terminal, listed⟩
  · exact ⟨.entryPoint, listed⟩
  · exact ⟨.ignore, listed⟩

/-- A valid rule makes a marker, unless an earlier rule for its name has made one. -/
theorem marker_of_valid (valid : rules.errors = []) {kind : MarkerKind} {rule : Rule}
    (listed : (kind, rule) ∈ rules.byKind) :
    ∃ name first, QualifiedName.parse rule.func = .ok name ∧ rules.ruleFor? name = some first ∧
      rules.markers.lookup name = some (first.2.marker first.1) := by
  obtain ⟨sec, isRule⟩ := exists_section_of_mem_byKind listed
  obtain ⟨name, read⟩ := parse_of_valid valid isRule
  have found : (rules.ruleFor? name).isSome = true :=
    List.find?_isSome.mpr ⟨_, listed, Rule.names_iff.mpr read⟩
  obtain ⟨first, known⟩ := Option.isSome_iff_exists.mp found
  exact ⟨name, first, read, known, by rw [lookup_markers, markerFor?, known, Option.map_some]⟩

end RuleSet

theorem IndexInput.ruledFunctions_eq (input : IndexInput) {rules : List Rule} {names : List QualifiedName}
    (read : rules.map (fun rule => QualifiedName.parse rule.func) = names.map .ok) :
    input.ruledFunctions rules = names.filterMap (input.program.resolve? input.package) := by
  induction rules generalizing names with
  | nil =>
    rw [List.map_eq_nil_iff.mp read.symm]
    rfl
  | cons rule rules ih =>
    obtain ⟨name, names, rfl, parsed, rest⟩ := List.map_eq_cons_iff.mp read.symm
    have parsed : QualifiedName.parse rule.func = .ok name := parsed.symm
    have ih := ih rest.symm
    unfold ruledFunctions at ih ⊢
    rw [List.filterMap_cons, List.filterMap_cons, ih, parsed]

theorem loadRules_eq_ok_iff {decode : RulesDecoder} {content : Option String} {rules : RuleSet} :
    loadRules decode content = .ok rules ↔ ∃ text, content = some text ∧
      decode text = some { rules, undecoded := [] } ∧ rules.errors = [] := by
  constructor
  · intro loaded
    unfold loadRules at loaded
    split at loaded
    next => cases loaded
    next text =>
      split at loaded
      next => cases loaded
      next decoded read =>
        split at loaded
        next => cases loaded
        next known =>
          split at loaded
          next => cases loaded
          next valid =>
            cases loaded
            refine ⟨text, rfl, ?_, Decidable.not_not.mp valid⟩
            rw [read, ← Decidable.not_not.mp known]
  · rintro ⟨text, rfl, read, valid⟩
    simp [loadRules, read, valid]

namespace Configuration

variable {configuration : Configuration} {decode : RulesDecoder} {files : String → Option String}
  {rules : RuleSet}

/-- The rules that a configuration takes from its rules file. A file that it names must exist, the
decoder must find valid rules in it, and have a use for all its keys. -/
def Loads (configuration : Configuration) (decode : RulesDecoder) (files : String → Option String)
    (loaded : RuleSet) : Prop :=
  if configuration.rulesFile = "" then loaded = .none
  else ∃ text, files configuration.rulesFile = some text ∧
    decode text = some { rules := loaded, undecoded := [] } ∧ loaded.errors = []

theorem Loads.valid {loaded : RuleSet} (loads : configuration.Loads decode files loaded) :
    loaded.errors = [] := by
  unfold Loads at loads
  split at loads
  · rw [loads]
    rfl
  · obtain ⟨-, -, -, valid⟩ := loads
    exact valid

theorem allRules_eq_ok_iff : configuration.allRules decode files = .ok rules ↔
    configuration.rules.errors = [] ∧
      ∃ loaded, configuration.Loads decode files loaded ∧ configuration.rules.merge loaded = rules := by
  unfold allRules Loads
  by_cases valid : configuration.rules.errors = []
  · by_cases alone : configuration.rulesFile = ""
    · simp [valid, alone, RuleSet.merge_none]
    · simp only [valid, alone, ne_eq, not_true_eq_false, if_false, true_and, ← loadRules_eq_ok_iff]
      cases loadRules decode (files configuration.rulesFile) <;> simp
  · simp [valid]

/-- Only valid rules reach the index, and all that is wrong with others is reported. A rule set has one
error for each defect, in the order of the sections and of the rules. The errors of two sets add up when
the sets are merged, so the merged set is valid exactly if both are. A configuration has rules to work
with exactly if its own rules are valid and those of its file, if it names one, can be read and are
valid. These are its own rules, followed by those of the file in each section. Together they are
valid, their names are all read, and only entry points get messages from them. -/
theorem valid_rules_reach_index (first second : RuleSet) (configuration : Configuration)
    (decode : RulesDecoder) (files : String → Option String) :
    (∀ error, error ∈ first.errors ↔ first.Defective error) ∧
    first.errors.Pairwise RuleError.Before ∧ first.errors.Nodup ∧
    (first.merge second).errors.length = first.errors.length + second.errors.length ∧
    ((first.merge second).errors = [] ↔ first.errors = [] ∧ second.errors = []) ∧
    ((∃ rules, configuration.allRules decode files = .ok rules) ↔
      configuration.rules.errors = [] ∧ ∃ loaded, configuration.Loads decode files loaded) ∧
    ∀ rules, configuration.allRules decode files = .ok rules →
      (∃ loaded, configuration.Loads decode files loaded ∧
        ∀ sec, rules.rulesOf sec = configuration.rules.rulesOf sec ++ loaded.rulesOf sec) ∧
      rules.errors = [] ∧
      (∀ sec, ∃ names : List QualifiedName,
        (rules.rulesOf sec).map (fun rule => QualifiedName.parse rule.func) = names.map .ok ∧
        ∀ input : IndexInput, input.ruledFunctions (rules.rulesOf sec) =
          names.filterMap (input.program.resolve? input.package)) ∧
      (∀ kind rule, (kind, rule) ∈ rules.byKind → ∃ name first, QualifiedName.parse rule.func = .ok name ∧
        rules.ruleFor? name = some first ∧ rules.markers.lookup name = some (first.2.marker first.1)) ∧
      ∀ name marker, (name, marker) ∈ rules.markers → marker.kind ≠ .entryPoint → marker.message = [] := by
  refine ⟨fun error => RuleSet.mem_errors_iff, first.errors_pairwise,
    first.errors_pairwise.imp RuleError.Before.ne, RuleSet.length_errors_merge first second,
    RuleSet.merge_valid_iff, ?_, fun rules found => ?_⟩
  · simp only [allRules_eq_ok_iff]
    constructor
    · rintro ⟨rules, valid, loaded, loads, -⟩
      exact ⟨valid, loaded, loads⟩
    · rintro ⟨valid, loaded, loads⟩
      exact ⟨_, valid, loaded, loads, rfl⟩
  · obtain ⟨own, loaded, loads, rfl⟩ := allRules_eq_ok_iff.mp found
    -- Both parts have been checked, each on its own.
    have valid : (configuration.rules.merge loaded).errors = [] := RuleSet.merge_valid_iff.mpr ⟨own, loads.valid⟩
    refine ⟨⟨loaded, loads, fun sec => by cases sec <;> rfl⟩, valid, fun sec => ?_,
      fun kind rule => RuleSet.marker_of_valid valid, fun name marker member other => ?_⟩
    · obtain ⟨names, read⟩ := RuleSet.names_of_valid valid sec
      exact ⟨names, read, fun input => input.ruledFunctions_eq read⟩
    · have proper := RuleSet.proper_of_mem_markers valid member
      exact Decidable.byContradiction fun said => other (proper.message said)

end Configuration

namespace Sample

/-- A configuration with rules of its own and a rules file. -/
def composed : Configuration :=
  { Configuration.default with
    rules := { RuleSet.none with terminals := [⟨"(lib.Builder).Build", ""⟩], entryPoints := [⟨"lib.New", ""⟩] }
    rulesFile := "rules.toml" }

def composedFiles (path : String) : Option String :=
  if path = "rules.toml" then
    some "[[start]]\nfunc = \"lib.New\"\nmessage = \"Build it.\"\n\n[[ignore]]\nfunc = \"lib.Old\"\n"
  else none

def composedRules : RuleSet :=
  { terminals := [⟨"(lib.Builder).Build", ""⟩]
    entryPoints := [⟨"lib.New", ""⟩, ⟨"lib.New", "Build it."⟩]
    ignored := [⟨"lib.Old", ""⟩] }

/-- The rules of the file follow those of the configuration. Of the rules for `lib.New` the first counts, which
has no message. -/
theorem composed_rules_valid :
    composed.allRules Toml.decodeRules composedFiles = .ok composedRules ∧ composedRules.errors = [] ∧
      composedRules.markers.lookup { path := "lib", receiver := none, name := "New" } =
        some { kind := .entryPoint, message := [] } := by
  have loaded : (composed.allRules Toml.decodeRules composedFiles).toOption = some composedRules := by
    decide +kernel
  have found : composed.allRules Toml.decodeRules composedFiles = .ok composedRules := by
    cases result : composed.allRules Toml.decodeRules composedFiles with
    | error error =>
      rw [result] at loaded
      cases loaded
    | ok rules =>
      rw [result] at loaded
      rw [Option.some.inj loaded]
  obtain ⟨-, -, -, -, -, -, reach⟩ :=
    Configuration.valid_rules_reach_index composed.rules .none composed Toml.decodeRules composedFiles
  obtain ⟨-, valid, -, marked, -⟩ := reach composedRules found
  refine ⟨found, valid, ?_⟩
  obtain ⟨name, first, read, ruled, known⟩ := marked .entryPoint ⟨"lib.New", "Build it."⟩ (by decide +kernel)
  have parsed : QualifiedName.parse "lib.New" = .ok { path := "lib", receiver := none, name := "New" } := by
    decide +kernel
  obtain rfl := Except.ok.inj (parsed.symm.trans read)
  have earlier : composedRules.ruleFor? { path := "lib", receiver := none, name := "New" } =
      some (.entryPoint, ⟨"lib.New", ""⟩) := by decide +kernel
  obtain rfl := Option.some.inj (earlier.symm.trans ruled)
  rw [known]
  rfl

end Sample

end Fluent
