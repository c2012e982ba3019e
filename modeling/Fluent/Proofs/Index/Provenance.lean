import Fluent.Index.Build
import Fluent.Rule.Validation
import Mathlib.Data.List.Nodup

/-! Where markers come from.

A package exports the markers that its directives give, so what a package finds out about a
function goes back to a directive, to a rule, or to nothing. Only entry points carry messages:
other directives take no arguments, and valid rules of other sections have no message. -/

set_option autoImplicit false

namespace Fluent

theorem mem_of_lookup {α β : Type} [DecidableEq α] {table : List (α × β)} {key : α} {value : β}
    (found : table.lookup key = some value) : (key, value) ∈ table := by
  obtain ⟨before, after, rfl, -⟩ := List.lookup_eq_some_iff.mp found
  simp

/-- A marker as directives and valid rules give it. -/
structure Marker.Proper (marker : Marker) : Prop where
  marked : marker.kind ≠ .none
  message : marker.message ≠ [] → marker.kind = .entryPoint

theorem parseDirective_proper {text : List Char} {marker : Marker}
    (read : parseDirective text = .ok marker) : marker.Proper := by
  unfold parseDirective at read
  simp only at read
  repeat' split at read
  all_goals cases read
  all_goals exact ⟨by simp, by simp⟩

theorem directives_proper {doc : CommentGroup} {item : Nat × Marker} (member : item ∈ directives doc) :
    item.2.Proper := by
  obtain ⟨comment, -, given⟩ := List.mem_filterMap.mp member
  split at given
  next marker read =>
    cases given
    obtain ⟨text, -, same⟩ := Option.map_eq_some_iff.mp read
    exact parseDirective_proper same
  next => cases given

/-- The marker that a declared function gets from its directives, unless it is refused. -/
def Declared.accepted? (decls : Declarations) (declared : Declared) : Option (FuncId × Marker) :=
  match directives declared.doc, declared.func.bind fun func =>
      (decls.functions[func]?).map fun function => (func, function) with
  | (_, first) :: _, some (func, function) =>
    if (decls.refusal? func function first.kind).isNone then some (func, first) else none
  | _, _ => none

namespace Declared

variable {decls : Declarations} {declared : Declared} {entry : FuncId × Marker}

theorem func_of_accepted? (accepted : declared.accepted? decls = some entry) :
    declared.func = some entry.1 ∧ (decls.functions[entry.1]?).isSome = true := by
  unfold accepted? at accepted
  split at accepted
  next start first others func function _ found =>
    split at accepted
    · cases accepted
      obtain ⟨own, isOwn, known⟩ := Option.bind_eq_some_iff.mp found
      obtain ⟨_, given, same⟩ := Option.map_eq_some_iff.mp known
      obtain ⟨rfl, rfl⟩ := Prod.mk.inj same
      exact ⟨isOwn, Option.isSome_iff_exists.mpr ⟨_, given⟩⟩
    · cases accepted
  next => cases accepted

theorem proper_of_accepted? (accepted : declared.accepted? decls = some entry) : entry.2.Proper := by
  unfold accepted? at accepted
  split at accepted
  next start first others func function written _ =>
    split at accepted
    · cases accepted
      exact @directives_proper _ (start, first) (by rw [written]; exact List.mem_cons_self)
    · cases accepted
  next => cases accepted

end Declared

namespace Collected

variable (decls : Declarations) (collected : Collected) (declared : Declared)

theorem markers_add : (collected.add decls declared).markers =
    match declared.accepted? decls with
    | some entry => collected.markers.filter (fun other => other.1 ≠ entry.1) ++ [entry]
    | none => collected.markers := by
  unfold add Declared.accepted?
  generalize declared.func.bind _ = owner
  rcases directives declared.doc with _ | ⟨first, others⟩
  · rfl
  · rcases owner with _ | ⟨func, function⟩
    · rfl
    · simp only
      cases decls.refusal? func function first.2.kind <;> rfl

theorem entries_add : (collected.add decls declared).entries.map Prod.fst =
    collected.entries.map Prod.fst ++
      ((declared.accepted? decls).toList.filter fun entry => entry.2.kind = .entryPoint).map Prod.fst := by
  unfold add Declared.accepted?
  generalize declared.func.bind _ = owner
  rcases directives declared.doc with _ | ⟨first, others⟩
  · simp
  · rcases owner with _ | ⟨func, function⟩
    · simp
    · simp only
      cases decls.refusal? func function first.2.kind with
      | some problem => simp
      | none => by_cases entry : first.2.kind = .entryPoint <;> simp [entry]

theorem accepted_of_mem_foldl (all : List Declared) {entry : FuncId × Marker}
    (member : entry ∈ (all.foldl (add decls) collected).markers) :
    entry ∈ collected.markers ∨ ∃ declared ∈ all, declared.accepted? decls = some entry := by
  induction all generalizing collected with
  | nil => exact Or.inl member
  | cons first all ih =>
    rcases ih _ member with before | ⟨declared, listed, accepted⟩
    · rw [markers_add] at before
      split at before
      next given accepted =>
        rcases List.mem_append.mp before with before | new
        · exact Or.inl (List.mem_filter.mp before).1
        · rw [List.mem_singleton.mp new]
          exact Or.inr ⟨first, List.mem_cons_self, accepted⟩
      next => exact Or.inl before
    · exact Or.inr ⟨declared, List.mem_cons_of_mem _ listed, accepted⟩

theorem nodup_markers_add (nodup : (collected.markers.map Prod.fst).Nodup) :
    ((collected.add decls declared).markers.map Prod.fst).Nodup := by
  rw [markers_add]
  split
  next entry _ =>
    rw [List.map_append, List.nodup_append]
    refine ⟨nodup.sublist (List.filter_sublist.map _), List.nodup_singleton _, ?_⟩
    intro func member other same
    obtain ⟨kept, isKept, rfl⟩ := List.mem_map.mp member
    rw [List.map_singleton, List.mem_singleton] at same
    rw [same]
    simpa using (List.mem_filter.mp isKept).2
  next => exact nodup

/-- Where each function is declared once, the marker of one is not replaced by that of another. -/
theorem markers_foldl (all : List Declared) (once : (all.filterMap Declared.func).Nodup)
    (fresh : ∀ declared ∈ all, ∀ func, declared.func = some func →
      func ∉ collected.markers.map Prod.fst) :
    (all.foldl (add decls) collected).markers =
      collected.markers ++ all.filterMap (Declared.accepted? decls) := by
  induction all generalizing collected with
  | nil => simp
  | cons first all ih =>
    obtain ⟨here, later⟩ := List.forall_mem_cons.mp fresh
    rw [List.foldl_cons, List.filterMap_cons]
    have rest : (all.filterMap Declared.func).Nodup :=
      once.sublist ((List.sublist_cons_self first all).filterMap _)
    cases accepted : first.accepted? decls with
    | none =>
      have same : (collected.add decls first).markers = collected.markers := by
        rw [markers_add, accepted]
      rw [ih _ rest (by rwa [same]), same]
    | some entry =>
      obtain ⟨owner, -⟩ := Declared.func_of_accepted? accepted
      have kept : collected.markers.filter (fun other => other.1 ≠ entry.1) = collected.markers := by
        refine List.filter_eq_self.mpr fun other member => ?_
        have absent := here entry.1 owner
        simpa using fun same : other.1 = entry.1 => absent (List.mem_map.mpr ⟨other, member, same⟩)
      have same : (collected.add decls first).markers = collected.markers ++ [entry] := by
        rw [markers_add, accepted]
        exact congrArg (· ++ [entry]) kept
      rw [ih _ rest, same, List.append_assoc]
      · rfl
      · intro declared member func own
        rw [same, List.map_append, List.map_singleton, List.mem_append, List.mem_singleton]
        rintro (before | rfl)
        · exact later declared member func own before
        · rw [List.filterMap_cons_some owner, List.nodup_cons] at once
          exact once.1 (List.mem_filterMap.mpr ⟨declared, member, own⟩)

theorem entries_foldl (all : List Declared) :
    (all.foldl (add decls) collected).entries.map Prod.fst =
      collected.entries.map Prod.fst ++
        ((all.filterMap (Declared.accepted? decls)).filter fun entry =>
          entry.2.kind = .entryPoint).map Prod.fst := by
  induction all generalizing collected with
  | nil => simp
  | cons first all ih =>
    rw [List.foldl_cons, ih, entries_add, List.filterMap_cons, List.append_assoc]
    cases first.accepted? decls with
    | none => rfl
    | some entry => by_cases kind : entry.2.kind = .entryPoint <;> simp [kind]

end Collected

namespace Program

variable (program : Program)

/-- The directives of a numbered package. -/
def collectedIn (package : PackageId) : Collected :=
  match program.packages[package]? with
  | some found => found.collect program.decls
  | none => { markers := [], entries := [], problems := [] }

/-- The functions that a numbered package declares. -/
def declaredIn (package : PackageId) : List Declared :=
  match program.packages[package]? with
  | some found => found.declared
  | none => []

/-- The markers that the pass over a package hands on to others. -/
def exportedBy (package : PackageId) : MarkerTable := (program.collectedIn package).markers

/-- Have all markers of a table been handed on by the pass over some package? -/
def HandsOn (table : MarkerTable) : Prop :=
  ∀ entry ∈ table, ∃ package, entry ∈ program.exportedBy package

theorem collectedIn_eq (package : PackageId) :
    program.collectedIn package = (program.declaredIn package).foldl (Collected.add program.decls)
      { markers := [], entries := [], problems := [] } := by
  unfold collectedIn declaredIn
  cases program.packages[package]? <;> rfl

variable {program} {package : PackageId} {entry : FuncId × Marker}

theorem accepted_of_exportedBy (member : entry ∈ program.exportedBy package) :
    ∃ declared ∈ program.declaredIn package, declared.accepted? program.decls = some entry := by
  rw [exportedBy, collectedIn_eq] at member
  rcases Collected.accepted_of_mem_foldl _ _ _ member with before | accepted
  · cases before
  · exact accepted

theorem proper_of_exportedBy (member : entry ∈ program.exportedBy package) : entry.2.Proper := by
  obtain ⟨declared, -, accepted⟩ := accepted_of_exportedBy member
  exact Declared.proper_of_accepted? accepted

theorem HandsOn.proper {table : MarkerTable} (exported : program.HandsOn table)
    (member : entry ∈ table) : entry.2.Proper := by
  obtain ⟨package, given⟩ := exported entry member
  exact proper_of_exportedBy given

theorem nodup_exportedBy (program : Program) (package : PackageId) :
    ((program.exportedBy package).map Prod.fst).Nodup := by
  rw [exportedBy, collectedIn_eq]
  exact List.foldlRecOn (motive := fun collected : Collected => (collected.markers.map Prod.fst).Nodup)
    _ _ List.nodup_nil fun collected nodup declared _ =>
      Collected.nodup_markers_add program.decls collected declared nodup

theorem mem_entries_iff {func : FuncId} :
    func ∈ (program.collectedIn package).entries.map Prod.fst ↔
      ∃ declared ∈ program.declaredIn package, ∃ marker,
        declared.accepted? program.decls = some (func, marker) ∧ marker.kind = .entryPoint := by
  rw [collectedIn_eq, Collected.entries_foldl]
  simp only [List.map_nil, List.nil_append, List.mem_map, List.mem_filter, List.mem_filterMap,
    decide_eq_true_eq, Prod.exists]
  constructor
  · rintro ⟨func, marker, ⟨⟨declared, member, accepted⟩, entry⟩, rfl⟩
    exact ⟨declared, member, marker, accepted, entry⟩
  · rintro ⟨declared, member, marker, accepted, entry⟩
    exact ⟨func, marker, ⟨⟨declared, member, accepted⟩, entry⟩, rfl⟩

theorem mem_exportedBy (once : ((program.declaredIn package).filterMap Declared.func).Nodup)
    {declared : Declared} (member : declared ∈ program.declaredIn package)
    (accepted : declared.accepted? program.decls = some entry) : entry ∈ program.exportedBy package := by
  rw [exportedBy, collectedIn_eq, Collected.markers_foldl _ _ _ once (by simp)]
  exact List.mem_append_right _ (List.mem_filterMap.mpr ⟨declared, member, accepted⟩)

end Program

theorem IndexInput.collected_eq (input : IndexInput) :
    input.collected = input.program.collectedIn input.package := rfl

theorem mem_addRules {kind : MarkerKind} {rules : List Rule} {ruled : List (QualifiedName × Marker)}
    {entry : QualifiedName × Marker} (member : entry ∈ addRules kind ruled rules) :
    entry ∈ ruled ∨ ∃ rule ∈ rules, QualifiedName.parse rule.func = .ok entry.1 ∧
      entry.2 = { kind, message := .ofString rule.message } := by
  unfold addRules at member
  induction rules generalizing ruled with
  | nil => exact Or.inl member
  | cons rule rules ih =>
    rw [List.foldl_cons] at member
    rcases ih member with before | ⟨other, listed, given⟩
    · split at before
      next => exact Or.inl before
      next name read =>
        split at before
        · exact Or.inl before
        · rcases List.mem_append.mp before with before | new
          · exact Or.inl before
          · rw [List.mem_singleton.mp new]
            exact Or.inr ⟨rule, List.mem_cons_self, read, rfl⟩
    · exact Or.inr ⟨other, List.mem_cons_of_mem _ listed, given⟩

namespace RuleSet

variable {rules : RuleSet} {entry : QualifiedName × Marker}

/-- The rules of a set with the kinds of the markers that they give. -/
def byKind (rules : RuleSet) : List (MarkerKind × Rule) :=
  rules.terminals.map (.terminal, ·) ++ (rules.entryPoints.map (.entryPoint, ·) ++
    rules.ignored.map (.ignore, ·))

/-- A marker made from rules is that of a rule with the name it stands under. -/
theorem rule_of_mem_markers (member : entry ∈ rules.markers) :
    ∃ item ∈ rules.byKind, QualifiedName.parse item.2.func = .ok entry.1 ∧
      entry.2 = { kind := item.1, message := .ofString item.2.message } := by
  rcases mem_addRules member with before | ⟨rule, listed, given⟩
  · rcases mem_addRules before with before | ⟨rule, listed, given⟩
    · rcases mem_addRules before with absurd | ⟨rule, listed, given⟩
      · cases absurd
      · exact ⟨(.terminal, rule), by simp [byKind, listed], given⟩
    · exact ⟨(.entryPoint, rule), by simp [byKind, listed], given⟩
  · exact ⟨(.ignore, rule), by simp [byKind, listed], given⟩

theorem kind_of_mem_byKind {item : MarkerKind × Rule} (member : item ∈ rules.byKind) :
    item.1 ≠ .none := by
  simp only [byKind, List.mem_append, List.mem_map] at member
  rcases member with ⟨rule, -, rfl⟩ | ⟨rule, -, rfl⟩ | ⟨rule, -, rfl⟩ <;> simp

theorem defects_of_sectionErrors {sec : RuleSection} {number : Nat} {rules : List Rule}
    (valid : sectionErrors sec number rules = []) : ∀ rule ∈ rules, rule.defects sec = [] := by
  induction rules generalizing number with
  | nil => exact fun _ member => nomatch member
  | cons rule rules ih =>
    obtain ⟨first, rest⟩ := List.append_eq_nil_iff.mp valid
    exact List.forall_mem_cons.mpr ⟨List.map_eq_nil_iff.mp first, ih rest⟩

theorem message_of_defects {sec : RuleSection} {rule : Rule} {name : QualifiedName}
    (valid : rule.defects sec = []) (read : QualifiedName.parse rule.func = .ok name)
    (plain : sec ≠ .entryPoint) : rule.message = "" := by
  simp only [Rule.defects, read, List.append_eq_nil_iff] at valid
  simpa [plain] using valid.2

/-- Valid rules give messages to entry points only. -/
theorem proper_of_mem_markers (valid : rules.errors = []) (member : entry ∈ rules.markers) :
    entry.2.Proper := by
  obtain ⟨terminals, others⟩ := List.append_eq_nil_iff.mp valid
  obtain ⟨-, ignored⟩ := List.append_eq_nil_iff.mp others
  obtain ⟨⟨kind, rule⟩, listed, read, same⟩ := rule_of_mem_markers member
  refine ⟨by rw [same]; exact kind_of_mem_byKind listed, fun said => ?_⟩
  have spoken : rule.message ≠ "" := by
    rintro silent
    rw [same, silent] at said
    exact said rfl
  simp only [byKind, List.mem_append, List.mem_map, Prod.mk.injEq] at listed
  rcases listed with ⟨_, listed, rfl, rfl⟩ | ⟨_, -, rfl, -⟩ | ⟨_, listed, rfl, rfl⟩
  · exact (spoken (message_of_defects (defects_of_sectionErrors terminals _ listed) read (by simp))).elim
  · rw [same]
  · exact (spoken (message_of_defects (defects_of_sectionErrors ignored _ listed) read (by simp))).elim

end RuleSet

theorem Markers.qualifiedName_of_no_package {decls : Declarations} {func : FuncId}
    (missing : decls.functionPackage func = none) : (decls.qualifiedName func).path = "" := by
  unfold Declarations.functionPackage at missing
  unfold Declarations.qualifiedName
  cases known : decls.functions[func]? with
  | none => rfl
  | some function =>
    simp only [known, Option.bind_some] at missing
    simp [missing]

/-- A marker is declared in the package, handed on by another one, given by a rule, or missing. -/
theorem Markers.of_cases (markers : Markers) (func : FuncId) :
    (func, markers.of func) ∈ markers.declared ∨ (func, markers.of func) ∈ markers.imported ∨
      (markers.decls.qualifiedName func, markers.of func) ∈ markers.ruled ∨
      markers.of func = .unmarked := by
  unfold Markers.of
  split
  next marker known => exact Or.inl (mem_of_lookup known)
  next =>
    split
    next => exact Or.inr (Or.inr (Or.inr rfl))
    next package _ =>
      simp only
      split
      next marker known =>
        split at known
        · cases known
        · exact Or.inr (Or.inl (mem_of_lookup known))
      next =>
        cases known : markers.ruled.lookup (markers.decls.qualifiedName func) with
        | none => exact Or.inr (Or.inr (Or.inr rfl))
        | some marker => exact Or.inr (Or.inr (Or.inl (mem_of_lookup known)))

namespace IndexInput

variable {input : IndexInput}

theorem proper_of_declared {entry : FuncId × Marker} (member : entry ∈ input.collected.markers) :
    entry.2.Proper :=
  @Program.proper_of_exportedBy input.program input.package entry member

theorem markers_proper (valid : input.rules.errors = []) (exported : input.program.HandsOn input.handedOn)
    {func : FuncId} : (input.markers.of func).Proper ∨ input.markers.of func = .unmarked := by
  rcases input.markers.of_cases func with declared | imported | ruled | none
  · exact Or.inl (proper_of_declared declared)
  · exact Or.inl (exported.proper imported)
  · exact Or.inl (RuleSet.proper_of_mem_markers valid ruled)
  · exact Or.inr none

end IndexInput

end Fluent
