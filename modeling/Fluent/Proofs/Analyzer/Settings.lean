import Fluent.Analyzer.Host
import Fluent.Proofs.Rule.Validation

/-! Nested settings behave as the list of their leaves.

Settings are applied from left to right, wherever they stand in the nested lists. Each switch, the
path of the rules file and the start of the message come from the last leaf that sets them, whatever
else is set in between, and rules gather in each section. A log shows one entry for each leaf, also
for a missing one. -/

set_option autoImplicit false

namespace Fluent

namespace Behavior

/-- The switches that a behavior has room for, one for each bit. -/
def singleBits : List UInt8 := [1, 2, 4, 8, 16, 32, 64, 128]

theorem ne_zero_of_mem_singleBits : ∀ bit ∈ singleBits, bit ≠ 0 := by decide +kernel

theorem apart_of_mem_singleBits :
    ∀ first ∈ singleBits, ∀ second ∈ singleBits, first ≠ second → first &&& second = 0 := by
  decide +kernel

variable {behavior : Behavior} {option other : UInt8} {on : Bool}

theorem eq_of_bits {first second : UInt8} (same : ∀ place (inside : place < 8),
    first.toBitVec[place] = second.toBitVec[place]) : first = second :=
  UInt8.toBitVec_inj.mp (BitVec.eq_of_getElem_eq same)

/-- Switches are as they have been set last. -/
theorem enabled_set_self (nonzero : option ≠ 0) : (behavior.set option on).enabled option = on := by
  cases on with
  | true =>
    have kept : (behavior.bits ||| option) &&& option = option := by
      refine eq_of_bits fun place inside => ?_
      simp only [UInt8.toBitVec_and, UInt8.toBitVec_or, BitVec.getElem_and, BitVec.getElem_or]
      cases behavior.bits.toBitVec[place] <;> cases option.toBitVec[place] <;> rfl
    simp [set, enabled, kept]
  | false =>
    have cleared : (behavior.bits &&& ~~~option) &&& option = 0 := by
      refine eq_of_bits fun place inside => ?_
      simp
    simp [set, enabled, cleared, Ne.symm nonzero]

/-- Setting a switch leaves the others alone. -/
theorem enabled_set_of_apart (apart : option &&& other = 0) :
    (behavior.set option on).enabled other = behavior.enabled other := by
  -- No bit is set in both, so what is done to the bits of the one keeps those of the other.
  have clear (place : Nat) (inside : place < 8) :
      (option.toBitVec[place] && other.toBitVec[place]) = false := by
    simpa using congrArg (fun bits : UInt8 => bits.toBitVec[place]) apart
  have same : (behavior.set option on).bits &&& other = behavior.bits &&& other := by
    refine eq_of_bits fun place inside => ?_
    have clear := clear place inside
    unfold set
    cases on <;> simp <;> grind
  rw [enabled, enabled, same]

end Behavior

namespace Setting

/-- The switch that a setting sets, and how. -/
def switch? : Setting → Option (UInt8 × Bool)
  | .generated on => some (Behavior.includeGenerated, on)
  | .declarations on => some (Behavior.reportDeclarations, on)
  | .related on => some (Behavior.relatedInformation, on)
  | _ => none

def turns? (bit : UInt8) (setting : Setting) : Option Bool :=
  setting.switch?.bind fun (other, on) => if other = bit then some on else none

def path? : Setting → Option String
  | .rulesFile path => some path
  | _ => none

def lead? : Setting → Option String
  | .lead text => some text
  | _ => none

/-- The rule that a setting adds to a section. -/
def rule? : RuleSection → Setting → Option Rule
  | .terminal, .terminal name => some ⟨name, ""⟩
  | .entryPoint, .entryPoint name message => some ⟨name, message⟩
  | .ignore, .ignore name => some ⟨name, ""⟩
  | _, _ => none

variable (configuration : Configuration) (setting : Setting)

theorem behavior_apply : (setting.apply configuration).behavior =
    match setting.switch? with
    | some (bit, on) => configuration.behavior.set bit on
    | none => configuration.behavior := by
  cases setting <;> rfl

theorem mem_singleBits_of_switch? {bit : UInt8} {on : Bool} (found : setting.switch? = some (bit, on)) :
    bit ∈ Behavior.singleBits := by
  cases setting <;> cases found <;> decide

theorem enabled_apply {bit : UInt8} (single : bit ∈ Behavior.singleBits) :
    (setting.apply configuration).behavior.enabled bit =
      (setting.turns? bit).getD (configuration.behavior.enabled bit) := by
  rw [behavior_apply, turns?]
  cases found : setting.switch? with
  | none => rfl
  | some switch =>
    obtain ⟨other, on⟩ := switch
    by_cases same : other = bit
    · subst same
      simpa using Behavior.enabled_set_self (Behavior.ne_zero_of_mem_singleBits _ single)
    · have apart := Behavior.apart_of_mem_singleBits _ (setting.mem_singleBits_of_switch? found) _ single same
      simpa [same] using Behavior.enabled_set_of_apart apart

theorem rulesFile_apply :
    (setting.apply configuration).rulesFile = setting.path?.getD configuration.rulesFile := by
  cases setting <;> rfl

theorem lead_apply : (setting.apply configuration).lead = setting.lead?.getD configuration.lead := by
  cases setting <;> rfl

theorem rulesOf_apply (sec : RuleSection) : (setting.apply configuration).rules.rulesOf sec =
    configuration.rules.rulesOf sec ++ (setting.rule? sec).toList := by
  cases sec <;> cases setting <;>
    simp [apply, rule?, RuleSet.rulesOf, RuleSet.merge, RuleSet.none]

/-- No entry is an empty group, which a log would leave out. -/
theorem logEntry_ne_empty : setting.logEntry.value ≠ .group [] := by
  cases setting <;> simp [logEntry]

end Setting

/-- The last value that settings give, if any gives one. -/
def lastOf {α : Type} (pick : Setting → Option α) (settings : List Setting) : Option α :=
  (settings.filterMap pick).getLast?

section

variable {α : Type} (settings : List Setting) (configuration : Configuration)

theorem lastOf_cons (pick : Setting → Option α) (setting : Setting) :
    lastOf pick (setting :: settings) = (lastOf pick settings).or (pick setting) := by
  unfold lastOf
  cases picked : pick setting with
  | none => simp [picked]
  | some value => simp [picked, List.getLast?_cons]

/-- What each setting replaces or leaves as it is comes from the last setting that replaces it. -/
theorem read_foldl_apply (read : Configuration → α) (pick : Setting → Option α)
    (replaced : ∀ configuration setting,
      read (setting.apply configuration) = (pick setting).getD (read configuration)) :
    read (settings.foldl Setting.apply configuration) = (lastOf pick settings).getD (read configuration) := by
  induction settings generalizing configuration with
  | nil => rfl
  | cons setting settings ih =>
    rw [List.foldl_cons, ih, replaced, lastOf_cons]
    -- A later setting hides what this one does.
    cases lastOf pick settings <;> rfl

theorem rulesOf_foldl_apply (sec : RuleSection) :
    (settings.foldl Setting.apply configuration).rules.rulesOf sec =
      configuration.rules.rulesOf sec ++ settings.filterMap (Setting.rule? sec) := by
  induction settings generalizing configuration with
  | nil => simp
  | cons setting settings ih =>
    rw [List.foldl_cons, ih, Setting.rulesOf_apply, List.append_assoc]
    cases picked : setting.rule? sec <;> simp [picked]

end

namespace SettingTree

mutual

/-- The places where a setting stands or is missing, from left to right. -/
def leaves : SettingTree → List (Option Setting)
  | .absent => [none]
  | .single setting => [some setting]
  | .group members => leavesOf members

def leavesOf : List SettingTree → List (Option Setting)
  | [] => []
  | tree :: trees => tree.leaves ++ leavesOf trees

end

/-- The settings of a tree in one list. -/
def settings (tree : SettingTree) : List Setting := tree.leaves.filterMap id

/-- What a log shows of one place. -/
def leafEntry : Option Setting → LogEntry
  | none => ⟨"nil", .text "<nil>"⟩
  | some setting => setting.logEntry

mutual

theorem apply_eq_foldl (configuration : Configuration) :
    (tree : SettingTree) → tree.apply configuration = tree.settings.foldl Setting.apply configuration
  | .absent => rfl
  | .single _ => rfl
  | .group members => applyAll_eq_foldl configuration members

theorem applyAll_eq_foldl (configuration : Configuration) : (trees : List SettingTree) →
    applyAll configuration trees = ((leavesOf trees).filterMap id).foldl Setting.apply configuration
  | [] => rfl
  | tree :: trees => by
    rw [applyAll, leavesOf, List.filterMap_append, List.foldl_append, applyAll_eq_foldl, apply_eq_foldl]
    rfl

end

mutual

theorem logEntries_eq_map : (tree : SettingTree) → tree.logEntries = tree.leaves.map leafEntry
  | .absent => rfl
  | .single _ => rfl
  | .group members => logEntriesOf_eq_map members

theorem logEntriesOf_eq_map :
    (trees : List SettingTree) → logEntriesOf trees = (leavesOf trees).map leafEntry
  | [] => rfl
  | tree :: trees => by
    rw [logEntriesOf, leavesOf, List.map_append, logEntries_eq_map, logEntriesOf_eq_map]

end

theorem leafEntry_ne_empty (leaf : Option Setting) : (leafEntry leaf).value ≠ .group [] := by
  cases leaf with
  | none => simp [leafEntry]
  | some setting => exact setting.logEntry_ne_empty

theorem leavesOf_append (first second : List SettingTree) :
    leavesOf (first ++ second) = leavesOf first ++ leavesOf second := by
  induction first with
  | nil => rfl
  | cons tree trees ih => rw [List.cons_append, leavesOf, leavesOf, ih, List.append_assoc]

theorem leavesOf_single (settings : List Setting) : leavesOf (settings.map .single) = settings.map some := by
  induction settings with
  | nil => rfl
  | cons setting settings ih => rw [List.map_cons, List.map_cons, leavesOf, leaves, ih, List.singleton_append]

variable (tree : SettingTree)

theorem configuration_eq_foldl : tree.configuration = tree.settings.foldl Setting.apply .default :=
  apply_eq_foldl .default tree

theorem read_configuration {α : Type} (read : Configuration → α) (pick : Setting → Option α)
    (replaced : ∀ configuration setting,
      read (setting.apply configuration) = (pick setting).getD (read configuration)) :
    read tree.configuration = (lastOf pick tree.settings).getD (read .default) := by
  rw [configuration_eq_foldl, read_foldl_apply tree.settings .default read pick replaced]

theorem enabled_configuration {bit : UInt8} (single : bit ∈ Behavior.singleBits) :
    tree.configuration.behavior.enabled bit =
      (lastOf (Setting.turns? bit) tree.settings).getD (Behavior.default.enabled bit) :=
  tree.read_configuration (·.behavior.enabled bit) (Setting.turns? bit) fun configuration setting =>
    setting.enabled_apply configuration single

theorem rulesOf_configuration (sec : RuleSection) :
    tree.configuration.rules.rulesOf sec = tree.settings.filterMap (Setting.rule? sec) := by
  rw [configuration_eq_foldl, rulesOf_foldl_apply]
  cases sec <;> rfl

end SettingTree

theorem getLast?_toList {α : Type} (value : Option α) : value.toList.getLast? = value := by
  cases value <;> rfl

namespace HostSettings

/-- What a configuration has from a host: generated files are on, the default stays where the host sets nothing,
and the rules are the host's in their order. -/
structure CarriedBy (host : HostSettings) (configuration : Configuration) : Prop where
  generated : configuration.behavior.enabled Behavior.includeGenerated = true
  declarations : configuration.behavior.enabled Behavior.reportDeclarations =
    host.declarations.getD (Behavior.default.enabled Behavior.reportDeclarations)
  related : configuration.behavior.enabled Behavior.relatedInformation =
    host.related.getD (Behavior.default.enabled Behavior.relatedInformation)
  rulesFile : configuration.rulesFile = host.rules.getD Configuration.default.rulesFile
  lead : configuration.lead = host.lead.getD Configuration.default.lead
  terminals : configuration.rules.terminals = host.terminals.toList.map fun name => ⟨name, ""⟩
  entryPoints : configuration.rules.entryPoints =
    host.entryPoints.toList.map fun entry => ⟨entry.func, entry.message⟩
  ignored : configuration.rules.ignored = host.ignored.toList.map fun name => ⟨name, ""⟩

variable (host : HostSettings)

/-- What a host asks for, followed by the switch for generated files. -/
def tree : SettingTree := .group (host.settings.map .single ++ [.single (.generated true)])

theorem settings_tree : host.tree.settings = host.settings ++ [.generated true] := by
  rw [tree, SettingTree.settings, SettingTree.leaves, SettingTree.leavesOf_append, SettingTree.leavesOf_single]
  simp [SettingTree.leavesOf, SettingTree.leaves]

/-- What can be read off the settings of a host, field by field. -/
theorem filterMap_settings_tree {α : Type} (pick : Setting → Option α) :
    host.tree.settings.filterMap pick =
      host.declarations.toList.filterMap (fun on => pick (.declarations on)) ++
      (host.related.toList.filterMap (fun on => pick (.related on)) ++
      (host.rules.toList.filterMap (fun path => pick (.rulesFile path)) ++
      (host.lead.toList.filterMap (fun text => pick (.lead text)) ++
      (host.terminals.toList.filterMap (fun name => pick (.terminal name)) ++
      (host.entryPoints.toList.filterMap (fun entry => pick (.entryPoint entry.func entry.message)) ++
      (host.ignored.toList.filterMap (fun name => pick (.ignore name)) ++
      (pick (.generated true)).toList)))))) := by
  have last : [Setting.generated true].filterMap pick = (pick (.generated true)).toList := by
    cases picked : pick (.generated true) <;> simp [picked]
  simp only [settings_tree, settings, List.filterMap_append, List.filterMap_map, List.append_assoc, last,
    Function.comp_def]

theorem carriedBy_configuration : host.CarriedBy host.configuration := by
  have same : host.configuration = host.tree.configuration := rfl
  have switch {bit : UInt8} (single : bit ∈ Behavior.singleBits) := host.tree.enabled_configuration single
  have path := host.tree.read_configuration _ _ Setting.rulesFile_apply
  have lead := host.tree.read_configuration _ _ Setting.lead_apply
  have rules := host.tree.rulesOf_configuration
  simp only [← same, lastOf, filterMap_settings_tree] at switch path lead rules
  -- In each case the settings for other fields give nothing.
  constructor
  case generated =>
    rw [switch (by decide)]
    simp [Setting.turns?, Setting.switch?]
  case declarations =>
    rw [switch (by decide)]
    simp [Setting.turns?, Setting.switch?, Behavior.includeGenerated, Behavior.reportDeclarations,
      Behavior.relatedInformation, getLast?_toList]
  case related =>
    rw [switch (by decide)]
    simp [Setting.turns?, Setting.switch?, Behavior.includeGenerated, Behavior.reportDeclarations,
      Behavior.relatedInformation, getLast?_toList]
  case rulesFile => simpa [Setting.path?, getLast?_toList] using path
  case lead => simpa [Setting.lead?, getLast?_toList] using lead
  case terminals => exact (rules .terminal).trans (by simp [Setting.rule?])
  case entryPoints => exact (rules .entryPoint).trans (by simp [Setting.rule?])
  case ignored => exact (rules .ignore).trans (by simp [Setting.rule?])

end HostSettings

/-- Nested settings behave as the list of their leaves. Applied to the default, they come to what the
leaves that are not missing come to from left to right. Each switch, the path of the rules file and the
start of the message have the value of the last leaf that sets them, or the default, and each section
has the rules that leaves add to it, in their order. A log has one entry for each leaf, also for a
missing one. The configuration of a host has generated files on, keeps the default where the host sets
nothing, and has the host's rules in their order. -/
theorem SettingTree.configuration_by_leaves (tree : SettingTree) (host : HostSettings) :
    tree.configuration = tree.settings.foldl Setting.apply .default ∧
    (∀ bit ∈ Behavior.singleBits, tree.configuration.behavior.enabled bit =
      (lastOf (Setting.turns? bit) tree.settings).getD (Behavior.default.enabled bit)) ∧
    tree.configuration.rulesFile = (lastOf Setting.path? tree.settings).getD Configuration.default.rulesFile ∧
    tree.configuration.lead = (lastOf Setting.lead? tree.settings).getD Configuration.default.lead ∧
    (∀ sec, tree.configuration.rules.rulesOf sec = tree.settings.filterMap (Setting.rule? sec)) ∧
    tree.logEntries = tree.leaves.map leafEntry ∧
    (∀ entry ∈ tree.logEntries, entry.value ≠ .group []) ∧
    host.CarriedBy host.configuration := by
  refine ⟨tree.configuration_eq_foldl, fun bit single => tree.enabled_configuration single,
    tree.read_configuration _ _ Setting.rulesFile_apply, tree.read_configuration _ _ Setting.lead_apply,
    tree.rulesOf_configuration, tree.logEntries_eq_map, fun entry member => ?_, host.carriedBy_configuration⟩
  rw [tree.logEntries_eq_map] at member
  obtain ⟨leaf, -, rfl⟩ := List.mem_map.mp member
  exact leafEntry_ne_empty leaf

namespace Sample

/-- Settings in three lists, in which some are set twice and some are missing. -/
def revised : SettingTree :=
  .group [.single (.related false), .absent, .single (.terminal "(lib.Builder).Build"),
    .group [.single (.generated true), .group [.absent, .single (.rulesFile "old.toml")],
      .single (.terminal "(lib.Builder).Send")],
    .single (.related true), .single (.rulesFile "new.toml")]

/-- The related places are on again, and the second rules file has replaced the first. -/
theorem revised_configuration :
    revised.configuration.behavior.enabled Behavior.relatedInformation = true ∧
    revised.configuration.behavior.enabled Behavior.reportDeclarations = true ∧
    revised.configuration.rulesFile = "new.toml" ∧
    revised.configuration.rules.terminals = [⟨"(lib.Builder).Build", ""⟩, ⟨"(lib.Builder).Send", ""⟩] ∧
    revised.logEntries.length = 9 := by
  obtain ⟨-, switches, path, -, rules, log, -⟩ := SettingTree.configuration_by_leaves revised .empty
  refine ⟨?_, ?_, path.trans (by decide), (rules .terminal).trans (by decide), ?_⟩
  · exact (switches Behavior.relatedInformation (by decide)).trans (by decide)
  · exact (switches Behavior.reportDeclarations (by decide)).trans (by decide)
  · rw [log, List.length_map]
    rfl

end Sample

end Fluent
