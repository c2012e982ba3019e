import Fluent.Proofs.Imports
import Fluent.Proofs.Index.Eligibility
import Fluent.Proofs.Index.Provenance

/-! What a package finds out about its functions and types holds for those that import it.

A package reads the markers of its functions off its directives, and an importer gets them
handed on. Both see the same marker, and with it the same function of a rule. The importer has
more interfaces and more entry points, so it can only find more terminal methods and more
builders among what the package sees. -/

set_option autoImplicit false

namespace Fluent

/-- Is what belongs to the second package in the sight of the first? What belongs to no package is
in the sight of all, and sees nothing else. -/
def Program.WithinSight (program : Program) : Option PackageId → Option PackageId → Prop
  | _, none => True
  | none, some _ => False
  | some package, some other => program.Sees package other

theorem Program.WithinSight.trans {program : Program} {first second third : Option PackageId}
    (before : program.WithinSight first second) (after : program.WithinSight second third) :
    program.WithinSight first third := by
  cases third with
  | none => trivial
  | some target =>
    cases second with
    | none => cases after
    | some middle =>
      cases first with
      | none => cases before
      | some source => exact Relation.ReflTransGen.trans before after

namespace Declarations

variable {decls : Declarations}

/-- Has the declared type that an entry names a declaration? -/
def originDeclared (decls : Declarations) : TypeEntry → Bool
  | .literal (.named id _) | .instantiated id _ => (decls.named? id).isSome
  | _ => true

theorem named?_of_shape (origins : ∀ entry ∈ decls.types.toList, decls.originDeclared entry = true)
    {type : Ty} {id : NamedId} {args : List Ty} (form : decls.shape type = .named id args) :
    (decls.named? id).isSome = true := by
  have listed {entry : TypeEntry} (found : decls.types[(decls.resolve type).entry]? = some entry) :
      decls.originDeclared entry = true :=
    origins entry (Array.mem_toList_iff.mpr (Array.mem_of_getElem? found))
  unfold shape at form
  simp only at form
  split at form
  next shape found =>
    cases shape with
    | named id args =>
      cases form
      exact listed found
    | _ => cases form
  next decl found =>
    cases form
    simp [named?, found]
  next origin args found =>
    cases form
    exact listed found
  next => cases form
  next => cases form
  next => cases form

theorem named?_of_base? (origins : ∀ entry ∈ decls.types.toList, decls.originDeclared entry = true)
    {type : Ty} {id : NamedId} (base : decls.base? type = some id) : (decls.named? id).isSome = true := by
  unfold base? at base
  split at base
  next form =>
    cases base
    exact named?_of_shape origins form
  next => cases base

end Declarations

/-- With more terminal methods of interfaces, more methods implement one. -/
theorem TerminalRules.implementsTerminal_mono {rules other : TerminalRules}
    (same : other.markers.decls = rules.markers.decls)
    (more : ∀ method ∈ rules.interfaceTerminals, method ∈ other.interfaceTerminals) {func : FuncId}
    (implements : rules.implementsTerminal func = true) : other.implementsTerminal func = true := by
  unfold implementsTerminal at implements ⊢
  rw [same]
  simp only at implements ⊢
  split at implements
  next =>
    simp only [Bool.and_eq_true, List.any_eq_true] at implements ⊢
    obtain ⟨concrete, terminal, member, fits⟩ := implements
    exact ⟨concrete, terminal, more terminal member, fits⟩
  next => cases implements

namespace IndexInput

/-- What a type checker makes sure of: functions are declared once and in their own package, and
types have methods only from packages that their own package sees. -/
structure WellScoped (input : IndexInput) : Prop where
  declared : ∀ package, ∀ declared ∈ input.program.declaredIn package, ∀ func,
    declared.func = some func → input.program.decls.functionPackage func = some package
  once : ∀ package, ((input.program.declaredIn package).filterMap Declared.func).Nodup
  origins : ∀ entry ∈ input.program.decls.types.toList, input.program.decls.originDeclared entry = true
  methods : ∀ id decl, input.program.decls.named? id = some decl →
    ∀ method ∈ input.program.decls.methodSet id,
      input.program.WithinSight decl.package (input.program.decls.functionPackage method.func)
  redeclared : ∀ func other, input.terminalRules.Redeclares func other →
    input.program.WithinSight (input.program.decls.functionPackage func)
      (input.program.decls.functionPackage other)

/-- The pass over another package of the program, by the same rules. -/
def passOver (input : IndexInput) (package : PackageId) (handedOn : MarkerTable) (order : VisitOrder) :
    IndexInput :=
  { input with package, handedOn, order }

/-- Does a driver make the markers of a package available to one that imports it? The package itself
gets those of all packages that it imports, and the importer these and those of the package. -/
structure HandedTo (input : IndexInput) (importer : PackageId) (handedOn : MarkerTable) : Prop where
  imports : Relation.TransGen input.program.Imports importer input.package
  dependencies : ∀ package, Relation.TransGen input.program.Imports input.package package →
    input.program.exportedBy package ⊆ input.handedOn
  kept : input.handedOn ⊆ handedOn
  own : input.program.exportedBy input.package ⊆ handedOn
  exported : input.program.HandsOn handedOn

variable {input : IndexInput} {importer : PackageId} {handedOn : MarkerTable} {order : VisitOrder}

theorem WellScoped.owner (wellScoped : input.WellScoped) {package : PackageId} {entry : FuncId × Marker}
    (member : entry ∈ input.program.exportedBy package) :
    input.program.decls.functionPackage entry.1 = some package := by
  obtain ⟨declared, listed, accepted⟩ := Program.accepted_of_exportedBy member
  exact wellScoped.declared package declared listed _ (Declared.func_of_accepted? accepted).1

/-- Of the markers handed on, those of a package's functions are what the package exports. -/
theorem WellScoped.lookup_handedOn (wellScoped : input.WellScoped) {table : MarkerTable}
    (exported : input.program.HandsOn table) {package : PackageId}
    (available : input.program.exportedBy package ⊆ table) {func : FuncId}
    (owner : input.program.decls.functionPackage func = some package) :
    table.lookup func = (input.program.exportedBy package).lookup func := by
  have back {marker : Marker} (member : (func, marker) ∈ table) :
      (func, marker) ∈ input.program.exportedBy package := by
    obtain ⟨other, given⟩ := exported _ member
    have same := owner.symm.trans (wellScoped.owner given)
    rwa [← Option.some.inj same] at given
  have unique {first second : Marker} (left : (func, first) ∈ input.program.exportedBy package)
      (right : (func, second) ∈ input.program.exportedBy package) : first = second := by
    have same := List.inj_on_of_nodup_map (input.program.nodup_exportedBy package) left right rfl
    exact (Prod.mk.inj same).2
  cases own : (input.program.exportedBy package).lookup func with
  | none =>
    cases found : table.lookup func with
    | none => rfl
    | some marker =>
      have absent := List.lookup_eq_none_iff.mp own _ (back (mem_of_lookup found))
      simp at absent
  | some marker =>
    cases found : table.lookup func with
    | none =>
      have absent := List.lookup_eq_none_iff.mp found _ (available (mem_of_lookup own))
      simp at absent
    | some other => rw [unique (back (mem_of_lookup found)) (mem_of_lookup own)]

/-- The marker of a function in the eyes of its own package: that of its directive, if it is accepted,
and else that of a rule. -/
def ownMarker (input : IndexInput) (package : PackageId) (func : FuncId) : Marker :=
  ((input.program.exportedBy package).lookup func).getD
    ((input.rules.markers.lookup (input.program.decls.qualifiedName func)).getD .unmarked)

theorem WellScoped.lookup_declared (wellScoped : input.WellScoped) {package : PackageId} {func : FuncId}
    (foreign : input.program.decls.functionPackage func ≠ some package) :
    (input.program.exportedBy package).lookup func = none := by
  cases found : (input.program.exportedBy package).lookup func with
  | none => rfl
  | some marker => exact (foreign (wellScoped.owner (mem_of_lookup found))).elim

/-- A function has the marker that its package gives it, in that package and wherever the markers of
the package are handed on. -/
theorem WellScoped.of_passOver (wellScoped : input.WellScoped) {viewer package : PackageId}
    {table : MarkerTable} (exported : input.program.HandsOn table)
    (available : viewer = package ∨ input.program.exportedBy package ⊆ table) {func : FuncId}
    (owner : input.program.decls.functionPackage func = some package) :
    (input.passOver viewer table order).markers.of func = input.ownMarker package func := by
  have parts : (input.passOver viewer table order).markers =
      { decls := input.program.decls, package := viewer, declared := input.program.exportedBy viewer,
        imported := table, ruled := input.rules.markers } := rfl
  simp only [parts, Markers.of, ownMarker, owner]
  by_cases same : package = viewer
  · rw [same]
    cases (input.program.exportedBy viewer).lookup func <;> simp
  · have foreign : input.program.decls.functionPackage func ≠ some viewer := by
      rw [owner]
      simpa using same
    rw [wellScoped.lookup_declared foreign, ← wellScoped.lookup_handedOn exported
      (available.resolve_left (Ne.symm same)) owner]
    simp only [same, if_false]
    cases table.lookup func <;> rfl

theorem HandedTo.before (handed : input.HandedTo importer handedOn) :
    input.program.HandsOn input.handedOn :=
  fun entry member => handed.exported entry (handed.kept member)

/-- A package and those that import it see the same markers of all functions in its sight. -/
theorem HandedTo.of_eq (handed : input.HandedTo importer handedOn) (wellScoped : input.WellScoped)
    {func : FuncId}
    (sight : input.program.WithinSight (some input.package) (input.program.decls.functionPackage func)) :
    (input.passOver importer handedOn order).markers.of func = input.markers.of func := by
  cases owner : input.program.decls.functionPackage func with
  | none =>
    have unmarked (viewer : PackageId) (table : MarkerTable) :
        (input.passOver viewer table order).markers.of func = .unmarked := by
      have undeclared : (input.passOver viewer table order).markers.declared.lookup func = none :=
        wellScoped.lookup_declared (by rw [owner]; simp)
      have unowned : (input.passOver viewer table order).markers.decls.functionPackage func = none := owner
      simp only [Markers.of, undeclared, unowned]
    exact (unmarked importer handedOn).trans (unmarked input.package input.handedOn).symm
  | some package =>
    rw [owner] at sight
    have here : input.package = package ∨ input.program.exportedBy package ⊆ input.handedOn :=
      (Relation.reflTransGen_iff_eq_or_transGen.mp sight).imp Eq.symm (handed.dependencies package)
    have there : input.program.exportedBy package ⊆ handedOn := by
      rcases here with rfl | available
      · exact handed.own
      · exact fun _ member => handed.kept (available member)
    rw [wellScoped.of_passOver handed.exported (Or.inr there) owner]
    exact (wellScoped.of_passOver handed.before here owner).symm

/-- Is a function marked by a directive of the package, or by one of another package? -/
def Knows (input : IndexInput) (kind : MarkerKind) (func : FuncId) : Prop :=
  (∃ marker, (func, marker) ∈ input.program.exportedBy input.package ∧ marker.kind = kind) ∨
    func ∈ input.importedOfKind kind

/-- Is a method marked by a directive, or denoted by a rule? -/
def Marked (input : IndexInput) (kind : MarkerKind) (rules : List Rule) (method : Method) : Prop :=
  (∃ func, input.Knows kind func ∧ (input.program.decls.functions[func]?).isSome = true ∧
    method = .plain func) ∨ method ∈ input.ruledFunctions rules

theorem mem_importedOfKind {kind : MarkerKind} {func : FuncId} :
    func ∈ input.importedOfKind kind ↔ ∃ marker, (func, marker) ∈ input.handedOn ∧ marker.kind = kind ∧
      input.program.decls.functionPackage func ≠ some input.package := by
  simp [importedOfKind]

theorem marked_iff {funcs : List FuncId} {kind : MarkerKind} {rules : List Rule} {method : Method}
    (known : ∀ func, func ∈ funcs ↔ input.Knows kind func) :
    method ∈ input.asDeclared funcs ++ input.ruledFunctions rules ↔ input.Marked kind rules method := by
  simp only [Marked, List.mem_append, asDeclared, List.mem_filterMap, Option.map_eq_some_iff, known,
    Option.isSome_iff_exists]
  refine or_congr_left ⟨?_, ?_⟩
  · rintro ⟨func, member, function, known, rfl⟩
    exact ⟨func, member, ⟨function, known⟩, rfl⟩
  · rintro ⟨func, member, ⟨function, known⟩, rfl⟩
    exact ⟨func, member, function, known, rfl⟩

theorem mem_interfaceTerminals {method : Method} :
    method ∈ input.interfaceTerminals ↔ input.Marked .terminal input.rules.terminals method ∧
      input.program.decls.isPlainInterfaceMethod method.func = true := by
  unfold interfaceTerminals
  rw [List.mem_filter, marked_iff fun func => ?_]
  rw [List.mem_append]
  refine or_congr_left ?_
  simp [collected_eq, Program.exportedBy]

theorem mem_entryPoints (wellScoped : input.WellScoped) {method : Method} :
    method ∈ input.entryPoints ↔ input.Marked .entryPoint input.rules.entryPoints method := by
  unfold entryPoints
  rw [marked_iff fun func => ?_]
  rw [List.mem_append, collected_eq, Program.mem_entries_iff]
  refine or_congr_left ⟨?_, ?_⟩
  · rintro ⟨declared, member, marker, accepted, kind⟩
    exact ⟨marker, Program.mem_exportedBy (wellScoped.once _) member accepted, kind⟩
  · rintro ⟨marker, exported, kind⟩
    obtain ⟨declared, member, accepted⟩ := Program.accepted_of_exportedBy exported
    exact ⟨declared, member, marker, accepted, kind⟩

theorem HandedTo.knows (handed : input.HandedTo importer handedOn) (wellScoped : input.WellScoped)
    {kind : MarkerKind} {func : FuncId} (known : input.Knows kind func) :
    (input.passOver importer handedOn order).Knows kind func := by
  have given : ∃ marker, (func, marker) ∈ handedOn ∧ marker.kind = kind := by
    rcases known with ⟨marker, exported, same⟩ | imported
    · exact ⟨marker, handed.own exported, same⟩
    · obtain ⟨marker, member, same, -⟩ := mem_importedOfKind.mp imported
      exact ⟨marker, handed.kept member, same⟩
  obtain ⟨marker, member, same⟩ := given
  by_cases own : input.program.decls.functionPackage func = some importer
  · obtain ⟨package, exported⟩ := handed.exported _ member
    have owner := own.symm.trans (wellScoped.owner exported)
    rw [← Option.some.inj owner] at exported
    exact Or.inl ⟨marker, exported, same⟩
  · exact Or.inr (mem_importedOfKind.mpr ⟨marker, member, same, own⟩)

theorem HandedTo.marked (handed : input.HandedTo importer handedOn) (wellScoped : input.WellScoped)
    (distinct : input.program.DistinctPaths importer) {kind : MarkerKind} {rules : List Rule}
    {method : Method} (marked : input.Marked kind rules method) :
    (input.passOver importer handedOn order).Marked kind rules method := by
  rcases marked with ⟨func, known, declared⟩ | ruled
  · exact Or.inl ⟨func, handed.knows wellScoped known, declared⟩
  · obtain ⟨rule, listed, denoted⟩ := List.mem_filterMap.mp ruled
    refine Or.inr (List.mem_filterMap.mpr ⟨rule, listed, ?_⟩)
    split at denoted
    next name read =>
      exact Program.resolve?_of_sees distinct handed.imports.to_reflTransGen denoted
    next => cases denoted

theorem HandedTo.implementsTerminal (handed : input.HandedTo importer handedOn)
    (wellScoped : input.WellScoped) (distinct : input.program.DistinctPaths importer) {func : FuncId}
    (implements : input.terminalRules.implementsTerminal func = true) :
    (input.passOver importer handedOn order).terminalRules.implementsTerminal func = true := by
  have more : ∀ method ∈ input.interfaceTerminals,
      method ∈ (input.passOver importer handedOn order).interfaceTerminals := by
    intro method member
    obtain ⟨marked, plain⟩ := mem_interfaceTerminals.mp member
    exact mem_interfaceTerminals.mpr ⟨handed.marked wellScoped distinct marked, plain⟩
  exact @TerminalRules.implementsTerminal_mono input.terminalRules
    (input.passOver importer handedOn order).terminalRules rfl more func implements

/-- A terminal method in the sight of a package is so for those that import the package. -/
theorem HandedTo.terminal (handed : input.HandedTo importer handedOn) (wellScoped : input.WellScoped)
    (distinct : input.program.DistinctPaths importer) {func : FuncId}
    (sight : input.program.WithinSight (some input.package) (input.program.decls.functionPackage func))
    (terminal : input.terminalRules.Terminal [] func) :
    (input.passOver importer handedOn order).terminalRules.Terminal [] func := by
  induction terminal with
  | known yes => cases yes
  | marked unknown mark =>
    refine .marked unknown ?_
    change ((input.passOver importer handedOn order).markers.of _).kind = .terminal
    rwa [handed.of_eq wellScoped sight]
  | redeclares unknown member _ ih =>
    exact .redeclares unknown member (ih (sight.trans (wellScoped.redeclared _ _ member)))
  | implements unknown found =>
    exact .implements unknown (handed.implementsTerminal wellScoped distinct found)

theorem HandedTo.hasTerminal (handed : input.HandedTo importer handedOn) (wellScoped : input.WellScoped)
    (distinct : input.program.DistinctPaths importer) {id : NamedId}
    (declared : (input.program.decls.named? id).isSome = true)
    (sight : input.program.WithinSight (some input.package) (input.program.decls.packageOf id))
    (terminal : input.terminalRules.HasTerminal [] id) :
    (input.passOver importer handedOn order).terminalRules.HasTerminal [] id := by
  obtain ⟨method, member, terminal⟩ := terminal
  obtain ⟨decl, known⟩ := Option.isSome_iff_exists.mp declared
  refine ⟨method, member, ?_⟩
  rw [TerminalRules.isTerminal_iff] at terminal ⊢
  have owner : input.program.decls.packageOf id = decl.package := by
    rw [Declarations.packageOf, known, Option.bind_some]
  rw [owner] at sight
  exact handed.terminal wellScoped distinct (sight.trans (wellScoped.methods id decl known method member))
    terminal

theorem WellScoped.declared_of_leadsTo (wellScoped : input.WellScoped) {id target : NamedId}
    (declared : (input.program.decls.named? id).isSome = true)
    (way : Relation.ReflTransGen input.program.decls.LeadsTo id target) :
    (input.program.decls.named? target).isSome = true ∧
      input.program.decls.packageOf target = input.program.decls.packageOf id := by
  induction way with
  | refl => exact ⟨declared, rfl⟩
  | tail _ step ih =>
    obtain ⟨method, member, result, listed, base, same⟩ := step
    exact ⟨Declarations.named?_of_base? wellScoped.origins base, same.trans ih.2⟩

theorem HandedTo.completes (handed : input.HandedTo importer handedOn) (wellScoped : input.WellScoped)
    (distinct : input.program.DistinctPaths importer) {id : NamedId}
    (declared : (input.program.decls.named? id).isSome = true)
    (sight : input.program.WithinSight (some input.package) (input.program.decls.packageOf id))
    (completes : input.terminalRules.Completes [] id) :
    (input.passOver importer handedOn order).terminalRules.Completes [] id := by
  obtain ⟨target, way, terminal⟩ := completes
  obtain ⟨there, same⟩ := wellScoped.declared_of_leadsTo declared way
  rw [← same] at sight
  exact ⟨target, way, handed.hasTerminal wellScoped distinct there sight terminal⟩

theorem HandedTo.reached (handed : input.HandedTo importer handedOn) (wellScoped : input.WellScoped)
    (distinct : input.program.DistinctPaths importer) {id : NamedId} (reached : input.Reached id) :
    (input.passOver importer handedOn order).Reached id := by
  have after : (input.passOver importer handedOn order).WellScoped := ⟨wellScoped.declared, wellScoped.once,
    wellScoped.origins, wellScoped.methods, wellScoped.redeclared⟩
  obtain ⟨entry, listed, way⟩ := reached
  refine ⟨entry, ?_, way⟩
  rw [mem_entryPoints wellScoped] at listed
  rw [mem_entryPoints after]
  exact handed.marked wellScoped distinct listed

/-- Markers mean the same to a package and to those that import it, if a driver hands them on. The
importer sees each function of the package with the marker that the package gives it. Where no struct
embeds itself by way of others, the functions in the sight of the package that are terminal for it are
so for the importer, and so are its builders, whatever either of them has been asked before. -/
theorem markers_shared_with_importers (wellScoped : input.WellScoped)
    (handed : input.HandedTo importer handedOn) (distinct : input.program.DistinctPaths importer) :
    (∀ func, input.program.decls.functionPackage func = some input.package →
      (input.passOver importer handedOn order).build.index.markers.of func =
        input.build.index.markers.of func) ∧
    (input.program.decls.WellReceived → input.program.decls.AcyclicEmbedding →
      ∀ questions others : List Question,
        (∀ func,
          input.program.WithinSight (some input.package) (input.program.decls.functionPackage func) →
          (input.build.index.rules.isTerminal func (input.memoAfter questions)).1 = true →
          ((input.passOver importer handedOn order).build.index.rules.isTerminal func
            ((input.passOver importer handedOn order).memoAfter others)).1 = true) ∧
        ∀ type,
          (∀ id, input.program.decls.base? type = some id →
            input.program.WithinSight (some input.package) (input.program.decls.packageOf id)) →
          (input.build.index.factsOf type (input.memoAfter questions)).1.isSome = true →
          ((input.passOver importer handedOn order).build.index.factsOf type
            ((input.passOver importer handedOn order).memoAfter others)).1.isSome = true) := by
  refine ⟨fun func own => handed.of_eq wellScoped (by rw [own]; exact .refl), ?_⟩
  intro received acyclic questions others
  have settled := @TerminalRules.settled_of_acyclicEmbedding input.terminalRules received acyclic []
  have settledThere := @TerminalRules.settled_of_acyclicEmbedding
    (input.passOver importer handedOn order).terminalRules received acyclic []
  have faithful := input.faithful_memoAfter settled questions
  have faithfulThere := (input.passOver importer handedOn order).faithful_memoAfter settledThere others
  refine ⟨fun func sight terminal => ?_, fun type sight builder => ?_⟩
  · rw [TerminalRules.isTerminal_iff] at terminal ⊢
    exact (faithfulThere.same func).mpr
      (handed.terminal wellScoped distinct sight ((faithful.same func).mp terminal))
  · rw [Index.factsOf_eq] at builder ⊢
    change ((input.program.decls.base? type).bind _).isSome = true at builder
    change ((input.program.decls.base? type).bind _).isSome = true
    cases base : input.program.decls.base? type with
    | none =>
      rw [base] at builder
      cases builder
    | some id =>
      rw [base, Option.bind_some, input.facts_build_isSome settled faithful] at builder
      rw [Option.bind_some, facts_build_isSome _ settledThere faithfulThere, faithfulThere.hasTerminal,
        faithfulThere.completes]
      rw [faithful.hasTerminal, faithful.completes] at builder
      have declared := Declarations.named?_of_base? wellScoped.origins base
      have seen := sight id base
      exact builder.imp (handed.hasTerminal wellScoped distinct declared seen)
        (And.imp (handed.reached wellScoped distinct) (handed.completes wellScoped distinct declared seen))

end IndexInput

namespace Sample

/-- The layered package as a library, with another package that imports it. -/
def layeredLibrary : IndexInput :=
  { layered with
    program :=
      { decls := { layered.program.decls with packagePaths := ["lib", "app"] }
        packages := layered.program.packages ++ [{ imports := [0], scope := [], files := [] }] } }

theorem layeredLibrary_wellScoped : layeredLibrary.WellScoped where
  declared := by
    have own : ∀ declared ∈ layeredLibrary.program.declaredIn 0, declared.func.all fun func =>
        layeredLibrary.program.decls.functionPackage func = some 0 := by decide +kernel
    rintro (_ | _ | package) declared member func isFunc
    · simpa [isFunc] using own declared member
    · cases member
    · cases member
  once := by
    rintro (_ | _ | package)
    · decide +kernel
    · exact List.nodup_nil
    · exact List.nodup_nil
  origins := by decide +kernel
  methods := by
    have own : ∀ id < 11, (layeredLibrary.program.decls.named? id).all fun decl =>
        decl.package = some 0 ∧ ∀ method ∈ layeredLibrary.program.decls.methodSet id,
          layeredLibrary.program.decls.functionPackage method.func = some 0 := by decide +kernel
    intro id decl known method member
    by_cases inside : id < 11
    · have here := own id inside
      simp only [known, Option.all_some, decide_eq_true_eq] at here
      rw [here.1, here.2 method member]
      exact .refl
    · have missing : layeredLibrary.program.decls.types[id]? = none :=
        Array.getElem?_eq_none (Nat.le_of_not_lt inside)
      simp [Declarations.named?, missing] at known
  redeclared := by
    have own : ∀ func < 5, ∀ other ∈ layeredLibrary.terminalRules.redeclared func,
        layeredLibrary.program.decls.functionPackage func = some 0 ∧
          layeredLibrary.program.decls.functionPackage other = some 0 := by decide +kernel
    intro func other redeclares
    obtain ⟨here, there⟩ := own func (TerminalRules.lt_of_mem_redeclared redeclares) other redeclares
    rw [here, there]
    exact .refl

theorem layeredLibrary_sees {package : PackageId} (sees : layeredLibrary.program.Sees 1 package) :
    package = 1 ∨ package = 0 := by
  induction sees with
  | refl => exact Or.inl rfl
  | tail _ imports before =>
    obtain ⟨found, present, listed⟩ := imports
    rcases before with rfl | rfl
    · cases present
      exact Or.inr (List.mem_singleton.mp listed)
    · cases present
      cases listed

theorem layeredLibrary_handedTo :
    layeredLibrary.HandedTo 1 (layeredLibrary.program.exportedBy 0) where
  imports := .single ⟨_, rfl, List.mem_singleton_self _⟩
  dependencies := by
    intro package way
    obtain ⟨_, ⟨found, present, listed⟩, -⟩ := Relation.TransGen.head'_iff.mp way
    cases present
    cases listed
  kept := List.nil_subset _
  own := fun _ member => member
  exported := fun _ member => ⟨0, member⟩

/-- The importer sees that `New` is an entry point, that `Done` of the query is terminal and that the
step is a builder. -/
theorem layeredLibrary_shared :
    layeredLibrary.WellScoped ∧
      layeredLibrary.HandedTo 1 (layeredLibrary.program.exportedBy 0) ∧
      layeredLibrary.program.DistinctPaths 1 ∧ layeredLibrary.program.decls.WellReceived ∧
      layeredLibrary.program.decls.AcyclicEmbedding ∧
      let there := layeredLibrary.passOver 1 (layeredLibrary.program.exportedBy 0) .asFound
      (there.build.index.markers.of 3).kind = .entryPoint ∧
        (there.build.index.rules.isTerminal 1 (there.memoAfter [.facts 2])).1 = true ∧
        (there.build.index.factsOf (.plain 2) (there.memoAfter [.facts 2])).1.isSome = true := by
  have distinct : layeredLibrary.program.DistinctPaths 1 := by
    intro first second left right
    rcases layeredLibrary_sees left with rfl | rfl <;> rcases layeredLibrary_sees right with rfl | rfl <;>
      decide +kernel
  have received : layeredLibrary.program.decls.WellReceived := by decide +kernel
  have acyclic : layeredLibrary.program.decls.AcyclicEmbedding := layered_acyclic
  obtain ⟨markers, shared⟩ := IndexInput.markers_shared_with_importers layeredLibrary_wellScoped
    layeredLibrary_handedTo distinct
  obtain ⟨terminal, builder⟩ := shared received acyclic [.terminal 0] [.facts 2]
  refine ⟨layeredLibrary_wellScoped, layeredLibrary_handedTo, distinct, received, acyclic, ?_, ?_, ?_⟩
  · rw [markers 3 (by decide +kernel)]
    decide +kernel
  · exact terminal 1 .refl (by decide +kernel)
  · refine builder (.plain 2) (fun id base => ?_) (by decide +kernel)
    cases base.symm.trans (by decide +kernel : layeredLibrary.program.decls.base? (.plain 2) = some 2)
    exact .refl

end Sample

end Fluent
