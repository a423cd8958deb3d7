import DtoForge.Proofs.Resolution.Run
import DtoForge.Proofs.Resolution.Seeding

/-!
The invariant of a run. Between two turns the registry is the registry of the declared definitions
with synthesized entries behind it; each of these is an object under some definition and is named
by a field of an earlier record. Every record mirrors its entry. At the end every entry has its
record, and the records stand in the order of the entries.
-/

namespace DtoForge.Resolution

open Registry

/-- A node under a declared definition; for a node with properties, under one with properties. -/
def Reached (definitions : Definitions) (node : Schema) : Prop :=
  ∃ pair ∈ definitions, pair.2.Within node ∧
    (node.hasProperties = true → pair.2.hasProperties = true)

/-- What sets the entries made up during the run apart from the declared ones. -/
structure Synthesized (context : Context) (definitions : Definitions) (pair : Text × Entry) :
    Prop where
  shaped : pair.2.schema.hasProperties = true
  named : pair.2.typeName = pair.1
  fresh : pair.1 ∉ (seeds definitions).taken
  unscoped : context.policy = .promote → pair.2.scope = none

/-- What a registry owes to the definitions that it started from. -/
structure Grounded (context : Context) (definitions : Definitions) (registry : Registry) :
    Prop where
  consistent : Consistent registry
  added : ∃ added, registry.entries = (seeds definitions).entries ++ added ∧
    ∀ pair ∈ added, Synthesized context definitions pair
  declared : registry.declaredNames = (seeds definitions).declaredNames
  taken : ∀ name ∈ (seeds definitions).taken, name ∈ registry.taken
  origin : ∀ pair ∈ registry.entries,
    pair.2.signature = pair.2.schema.signature ∧ Reached definitions pair.2.schema
  canonical : context.policy = .promote → ∀ signature name,
    registry.canonicalName signature = some name ↔ CanonicalEntry registry signature name

/-- A name that the record of an entry before some place refers to. -/
def ReferencedBefore (registry : Registry) (index : Nat) (name : Text) : Prop :=
  ∃ earlier < index, ∃ parent record, registry.entries[earlier]? = some parent ∧
    registry.recordFor parent.1 = some record ∧
      ∃ field ∈ record.fields, field.type.recordName? = some name

structure Coherent (context : Context) (definitions : Definitions) (registry : Registry) :
    Prop where
  grounded : Grounded context definitions registry
  mirrored : ∀ key entry record, registry.entries.get? key = some entry →
    registry.recordFor key = some record → Mirrors context registry entry record
  referenced : ∀ (index : Nat) (pair : Text × Entry), registry.entries[index]? = some pair →
    pair ∈ (seeds definitions).entries ∨ ReferencedBefore registry index pair.2.typeName

variable {context : Context} {definitions : Definitions}

theorem Reached.node {node : Schema} (reached : Reached definitions node) :
    definitions.Node node := by
  obtain ⟨root, declared, within, -⟩ := reached
  exact ⟨root, declared, within⟩

theorem Grounded.synthesized {registry : Registry}
    (grounded : Grounded context definitions registry)
    {pair : Text × Entry} (held : pair ∈ registry.entries)
    (made : pair ∉ (seeds definitions).entries) : Synthesized context definitions pair := by
  obtain ⟨added, entries, synthesized⟩ := grounded.added
  rw [entries] at held
  exact synthesized pair ((List.mem_append.mp held).resolve_left made)

/-! ### The start -/

theorem grounded_seeds (distinct : definitions.keys.Nodup) :
    Grounded context definitions (seeds definitions) where
  consistent := (seeded_seeds definitions distinct).consistent
  added := ⟨[], by simp⟩
  declared := rfl
  taken := fun _ taken => taken
  origin := by
    intro pair member
    obtain ⟨declared, signed, -⟩ := (seeded_seeds definitions distinct).entries pair member
    exact ⟨signed, (pair.1, pair.2.schema), declared, .self, id⟩
  canonical := fun _ => (seeded_seeds definitions distinct).canonical

theorem coherent_seeds (distinct : definitions.keys.Nodup) :
    Coherent context definitions (seeds definitions) where
  grounded := grounded_seeds distinct
  mirrored := by
    intro key entry record _ recorded
    rw [recordFor, (seeded_seeds definitions distinct).unrecorded] at recorded
    cases recorded
  referenced := fun _ _ stored => Or.inl (List.mem_of_getElem? stored)

/-! ### One turn -/

variable {before after : Registry}

theorem Grounded.of_same (grounded : Grounded context definitions before)
    (sound : Consistent after) (entries : after.entries = before.entries)
    (declared : after.declaredNames = before.declaredNames)
    (canonical : after.namesBySignature = before.namesBySignature)
    (taken : after.taken = before.taken) : Grounded context definitions after where
  consistent := sound
  added := entries ▸ grounded.added
  declared := declared.trans grounded.declared
  taken := taken ▸ grounded.taken
  origin := entries ▸ grounded.origin
  canonical := by
    intro policy signature name
    rw [canonicalName, canonical, CanonicalEntry, entries]
    exact grounded.canonical policy signature name

theorem reached_core {enclosing : Schema} {property : Text × Schema}
    (reached : Reached definitions enclosing) (member : property ∈ enclosing.properties) :
    Reached definitions property.2.core := by
  obtain ⟨root, declared, within, shaped⟩ := reached
  have enclosingShaped : enclosing.hasProperties = true := by
    cases enclosing with
    | object properties required =>
        exact (Schema.has_properties_iff _ _).mpr (List.ne_nil_of_mem member)
    | array | primitive | reference | unknown => cases member
  exact ⟨root, declared, (within.of_properties member).core, fun _ => shaped enclosingShaped⟩

theorem Grounded.registered {enclosing : Entry} {property : Text × Schema} {name : Text}
    (grounded : Grounded context definitions before)
    (reached : Reached definitions enclosing.schema)
    (member : property ∈ enclosing.schema.properties)
    (registration : Registration context enclosing property.2.core name before after) :
    Grounded context definitions after := by
  have fresh : name ∉ (seeds definitions).taken :=
    fun taken => registration.fresh (grounded.taken name taken)
  constructor
  case consistent => exact registration.consistent
  case added =>
    obtain ⟨added, entries, synthesized⟩ := grounded.added
    refine ⟨added ++ [_], by rw [registration.entries, entries, List.append_assoc], ?_⟩
    intro pair held
    rcases List.mem_append.mp held with old | new
    · exact synthesized pair old
    · rw [List.mem_singleton.mp new]
      exact ⟨registration.shaped, rfl, fresh, fun policy => by
        simp [nestedEntry, Context.scopeIn, policy]⟩
  case declared => exact registration.declared.trans grounded.declared
  case taken =>
    intro other taken
    rw [registration.taken]
    exact List.mem_cons_of_mem _ (List.mem_cons_of_mem _ (grounded.taken other taken))
  case origin =>
    intro pair held
    rw [registration.entries] at held
    rcases List.mem_append.mp held with old | new
    · exact grounded.origin pair old
    · rw [List.mem_singleton.mp new]
      exact ⟨rfl, reached_core reached member⟩
  case canonical =>
    intro policy signature other
    rcases registration.shared with ⟨inline, -⟩ | ⟨-, missing, put⟩
    · rw [policy] at inline
      cases inline
    exact canonical_shared registration.entries (grounded.canonical policy) missing
      registration.shaped put signature other

theorem Grown.get_entry (grown : Grown before after) {key : Text} {entry : Entry}
    (stored : before.entries.get? key = some entry) : after.entries.get? key = some entry := by
  obtain ⟨added, entries⟩ := grown.entries
  rw [← entries, Table.get_append, stored]
  rfl

variable {worked : Registry} {key : Text} {entry : Entry} {record : Record}

theorem Settling.grounded (settling : Settling context before key entry record worked)
    (grounded : Grounded context definitions before) :
    Grounded context definitions (worked.complete key record) := by
  obtain ⟨_, progress, -, begun, -⟩ := begin_effect before key settling.pending
  have reached := (grounded.origin _ (Table.mem_of_get _ _ _ settling.stored)).2
  have start : Grounded context definitions (before.begin key).2 := by
    refine grounded.of_same (grounded.consistent.begun key settling.pending) ?_ ?_ ?_ ?_ <;>
      rw [begun]
  have discovered : Grounded context definitions worked :=
    settling.discovery.keeps _
      (fun _ _ _ _ member registration held => held.registered reached member registration) start
  exact discovered.of_same (settling.consistent grounded.consistent) rfl rfl rfl rfl

/-- The key that is settled had no record, so every record made before is still there. -/
theorem Settling.record_kept (settling : Settling context before key entry record worked)
    (sound : Consistent before) {other : Text} {old : Record}
    (recorded : before.recordFor other = some old) :
    (worked.complete key record).recordFor other = some old := by
  have differ : other ≠ key := by
    rintro rfl
    have processed := (sound.recorded other).mp (by simp [recorded])
    exact ((mem_pending_iff before other).mp settling.pending).2 processed
  rw [recordFor, settling.recorded, Table.get_put_of_ne _ _ _ _ differ]
  exact recorded

theorem Settling.recorded_cases (settling : Settling context before key entry record worked)
    (sound : Consistent before) {other : Text} {owner : Entry} {found : Record}
    (stored : (worked.complete key record).entries.get? other = some owner)
    (recorded : (worked.complete key record).recordFor other = some found) :
    (owner = entry ∧ found = record) ∨
      (before.entries.get? other = some owner ∧ before.recordFor other = some found) := by
  rw [recordFor, settling.recorded] at recorded
  rcases get_put_cases _ _ _ _ _ recorded with ⟨rfl, rfl⟩ | old
  · have same := settling.grown.get_entry settling.stored
    rw [stored] at same
    cases same
    exact Or.inl ⟨rfl, rfl⟩
  · have owned := sound.processedOwned other ((sound.recorded other).mp (by simp [recordFor, old]))
    obtain ⟨earlier, storedEarlier⟩ := Option.isSome_iff_exists.mp
      ((Table.contains_iff before.entries other).mpr owned)
    have same := settling.grown.get_entry storedEarlier
    rw [stored] at same
    cases same
    exact Or.inr ⟨storedEarlier, old⟩

theorem Settling.mirrored (settling : Settling context before key entry record worked)
    (coherent : Coherent context definitions before) (other : Text) (owner : Entry)
    (found : Record) (stored : (worked.complete key record).entries.get? other = some owner)
    (recorded : (worked.complete key record).recordFor other = some found) :
    Mirrors context (worked.complete key record) owner found := by
  rcases settling.recorded_cases coherent.grounded.consistent stored recorded with
    ⟨rfl, rfl⟩ | ⟨storedEarlier, old⟩
  · have completed : Grown worked (worked.complete key found) :=
      ⟨List.prefix_refl _, rfl, fun _ _ shared => shared⟩
    exact settling.mirrors.mono completed
  · exact (coherent.mirrored other owner found storedEarlier old).mono settling.grown

/-- Every record has been built from the entry under its key, whatever the registry was then. -/
def RecordsBuilt (context : Context) (registry : Registry) : Prop :=
  ∀ key entry record, registry.entries.get? key = some entry →
    registry.recordFor key = some record → ∃ begun, (recordOf context entry begun).1 = record

theorem Settling.records_built (settling : Settling context before key entry record worked)
    (sound : Consistent before) (built : RecordsBuilt context before) :
    RecordsBuilt context (worked.complete key record) := by
  intro other owner found stored recorded
  rcases settling.recorded_cases sound stored recorded with ⟨rfl, rfl⟩ | ⟨storedEarlier, old⟩
  · obtain ⟨notices, made⟩ := settling.built
    exact ⟨(before.begin key).2, congrArg (·.1) made⟩
  · exact built other owner found storedEarlier old

theorem Settling.reference_kept (settling : Settling context before key entry record worked)
    (sound : Consistent before) {index later : Nat} {name : Text} (order : index ≤ later)
    (referenced : ReferencedBefore before index name) :
    ReferencedBefore (worked.complete key record) later name := by
  obtain ⟨earlier, smaller, parent, old, stored, recorded, named⟩ := referenced
  obtain ⟨added, entries⟩ := settling.grown.entries
  refine ⟨earlier, by omega, parent, old, ?_, settling.record_kept sound recorded, named⟩
  rw [← entries, List.getElem?_append_left (List.getElem?_eq_some_iff.mp stored).1]
  exact stored

theorem Settling.referenced (settling : Settling context before key entry record worked)
    (coherent : Coherent context definitions before) (index : Nat) (pair : Text × Entry)
    (stored : (worked.complete key record).entries[index]? = some pair) :
    pair ∈ (seeds definitions).entries ∨
      ReferencedBefore (worked.complete key record) index pair.2.typeName := by
  have sound := coherent.grounded.consistent
  obtain ⟨added, entries⟩ := settling.grown.entries
  -- An entry that stood there before the turn keeps its reference from further up.
  have carried (place : Nat) (order : place ≤ index) (old : before.entries[place]? = some pair) :
      pair ∈ (seeds definitions).entries ∨
        ReferencedBefore (worked.complete key record) index pair.2.typeName := by
    rcases coherent.referenced place pair old with seeded | referenced
    · exact Or.inl seeded
    · exact Or.inr (settling.reference_kept sound order referenced)
  by_cases within : index < before.entries.length
  · rw [← entries, List.getElem?_append_left within] at stored
    exact carried index (Nat.le_refl _) stored
  rcases settling.named pair (List.mem_of_getElem? stored) with old | named
  · obtain ⟨place, found⟩ := List.mem_iff_getElem?.mp old
    have bound := (List.getElem?_eq_some_iff.mp found).1
    exact carried place (by omega) found
  · obtain ⟨place, found⟩ := List.mem_iff_getElem?.mp (Table.mem_of_get _ _ _ settling.stored)
    have bound := (List.getElem?_eq_some_iff.mp found).1
    refine Or.inr ⟨place, by omega, (key, entry), record, ?_, ?_, named⟩
    · rw [← entries, List.getElem?_append_left bound]
      exact found
    · rw [recordFor, settling.recorded, Table.get_put_self]

theorem Settling.coherent (settling : Settling context before key entry record worked)
    (coherent : Coherent context definitions before) :
    Coherent context definitions (worked.complete key record) where
  grounded := settling.grounded coherent.grounded
  mirrored := settling.mirrored coherent
  referenced := settling.referenced coherent

/-! ### The end -/

/-- A graph with the registry that it was read from: one record for each entry, in order. -/
structure Finished (context : Context) (definitions : Definitions) (graph : TypeGraph)
    (registry : Registry) : Prop where
  distinct : definitions.keys.Nodup
  coherent : Coherent context definitions registry
  records : graph.records = registry.records
  settled : registry.pendingKeys = []

theorem records_of_settled {registry : Registry} (sound : Consistent registry)
    (settled : registry.pendingKeys = []) :
    registry.records.map some = registry.entries.map fun pair => registry.recordFor pair.1 := by
  rw [records, List.map_filterMap_some_eq_filter_map_isSome, Table.keys, List.map_map]
  apply List.filter_eq_self.mpr
  intro found member
  obtain ⟨pair, held, rfl⟩ := List.mem_map.mp member
  apply (sound.recorded pair.1).mpr
  by_contra unprocessed
  have pending : pair.1 ∈ registry.pendingKeys :=
    (mem_pending_iff registry pair.1).mpr ⟨List.mem_map_of_mem held, unprocessed⟩
  rw [settled] at pending
  cases pending

variable {graph : TypeGraph} {registry : Registry}

theorem Finished.built (finished : Finished context definitions graph registry) :
    graph.records.map some = registry.entries.map fun pair => registry.recordFor pair.1 := by
  rw [finished.records]
  exact records_of_settled finished.coherent.grounded.consistent finished.settled

theorem Finished.record_at (finished : Finished context definitions graph registry) {index : Nat}
    {pair : Text × Entry} (stored : registry.entries[index]? = some pair) :
    ∃ record, graph.records[index]? = some record ∧ registry.recordFor pair.1 = some record := by
  have aligned := congrArg (·[index]?) finished.built
  simp only [List.getElem?_map, stored, Option.map_some] at aligned
  obtain ⟨record, found, same⟩ := Option.map_eq_some_iff.mp aligned
  exact ⟨record, found, same.symm⟩

theorem Finished.entry_at (finished : Finished context definitions graph registry) {index : Nat}
    {record : Record} (stored : graph.records[index]? = some record) :
    ∃ pair, registry.entries[index]? = some pair ∧ registry.recordFor pair.1 = some record := by
  have aligned := congrArg (·[index]?) finished.built
  simp only [List.getElem?_map, stored, Option.map_some] at aligned
  obtain ⟨pair, found, same⟩ := Option.map_eq_some_iff.mp aligned.symm
  exact ⟨pair, found, same⟩

theorem Finished.mirrors (finished : Finished context definitions graph registry)
    {pair : Text × Entry} {record : Record} (held : pair ∈ registry.entries)
    (recorded : registry.recordFor pair.1 = some record) :
    Mirrors context registry pair.2 record :=
  finished.coherent.mirrored pair.1 pair.2 record
    (Table.get_of_mem _ _ _ finished.coherent.grounded.consistent.keysDistinct held) recorded

theorem Finished.record_of_entry (finished : Finished context definitions graph registry)
    {pair : Text × Entry} (held : pair ∈ registry.entries) :
    ∃ record ∈ graph.records, registry.recordFor pair.1 = some record ∧
      Mirrors context registry pair.2 record := by
  obtain ⟨index, stored⟩ := List.mem_iff_getElem?.mp held
  obtain ⟨record, found, recorded⟩ := finished.record_at stored
  exact ⟨record, List.mem_of_getElem? found, recorded, finished.mirrors held recorded⟩

theorem Finished.entry_of_record (finished : Finished context definitions graph registry)
    {record : Record} (held : record ∈ graph.records) :
    ∃ pair ∈ registry.entries, registry.recordFor pair.1 = some record ∧
      Mirrors context registry pair.2 record := by
  obtain ⟨index, stored⟩ := List.mem_iff_getElem?.mp held
  obtain ⟨pair, found, recorded⟩ := finished.entry_at stored
  have member := List.mem_of_getElem? found
  exact ⟨pair, member, recorded, finished.mirrors member recorded⟩

theorem Finished.names (finished : Finished context definitions graph registry) :
    graph.names = registry.entries.map (·.2.typeName) := by
  apply List.map_injective_iff.mpr fun _ _ same => Option.some.inj same
  calc graph.names.map some
      = (graph.records.map some).map (Option.map Record.name) := by simp [TypeGraph.names]
    _ = registry.entries.map fun pair => (registry.recordFor pair.1).map Record.name := by
        rw [finished.built, List.map_map]
        rfl
    _ = (registry.entries.map (·.2.typeName)).map some := by
        rw [List.map_map]
        apply List.map_congr_left
        intro pair held
        obtain ⟨record, -, recorded, mirrors⟩ := finished.record_of_entry held
        simp [recorded, mirrors.name]

theorem Finished.names_distinct (finished : Finished context definitions graph registry) :
    graph.names.Nodup := by
  rw [finished.names]
  exact finished.coherent.grounded.consistent.namesDistinct

theorem Finished.get_record (finished : Finished context definitions graph registry)
    {record : Record} (held : record ∈ graph.records) : graph.get? record.name = some record := by
  have distinct := finished.names_distinct
  cases found : graph.get? record.name with
  | none =>
      have missed := List.find?_eq_none.mp found record held
      simp at missed
  | some other =>
      have same : other.name = record.name := by simpa using List.find?_some found
      rw [List.inj_on_of_nodup_map distinct (List.mem_of_find?_eq_some found) held same]

theorem Finished.declared_entry (finished : Finished context definitions graph registry)
    {key : Text} {schema : Schema} (declared : (key, schema) ∈ definitions) :
    ∃ pair ∈ registry.entries, registry.lookupReference key = some pair.2.typeName ∧
      Represents pair key schema := by
  have grounded := finished.coherent.grounded
  obtain ⟨added, entries, -⟩ := grounded.added
  obtain ⟨pair, held, looked, represents⟩ :=
    (seeded_seeds definitions finished.distinct).references key schema declared
  refine ⟨pair, entries ▸ List.mem_append_left added held, ?_, represents⟩
  rw [lookupReference, grounded.declared]
  exact looked

def builds (registry : Registry) : List (Entry × Record) :=
  registry.entries.filterMap fun pair => (registry.recordFor pair.1).map fun record =>
    (pair.2, record)

theorem mem_builds_iff (entry : Entry) (record : Record) :
    (entry, record) ∈ builds registry ↔
      ∃ key, (key, entry) ∈ registry.entries ∧ registry.recordFor key = some record := by
  simp [builds]

theorem built_records (registry : Registry) : (builds registry).map (·.2) = registry.records := by
  rw [builds, records, Table.keys, List.map_filterMap, List.filterMap_map]
  simp [Function.comp_def]

theorem Finished.entry_of_build (finished : Finished context definitions graph registry)
    {build : Entry × Record} (held : build ∈ builds registry) :
    ∃ key, (key, build.1) ∈ registry.entries ∧ build.2 ∈ graph.records ∧
      Mirrors context registry build.1 build.2 := by
  obtain ⟨key, stored, recorded⟩ := (mem_builds_iff build.1 build.2).mp held
  obtain ⟨record, member, same, mirrors⟩ := finished.record_of_entry stored
  rw [recorded] at same
  cases same
  exact ⟨key, stored, member, mirrors⟩

theorem Finished.built_entries (finished : Finished context definitions graph registry) :
    (builds registry).map (·.1) = registry.entries.map (·.2) := by
  rw [builds, List.map_filterMap, ← List.filterMap_eq_map]
  apply List.filterMap_congr
  intro pair held
  obtain ⟨record, -, recorded, -⟩ := finished.record_of_entry held
  simp [recorded]

/-- Definitions with distinct keys always have a graph, and the run that makes it is coherent. What
every turn keeps on the way holds of the registry at the end. -/
theorem resolve_graph_keeps (context : Context) (definitions : Definitions)
    (distinct : definitions.keys.Nodup) (holds : Registry → Prop)
    (start : holds (seeds definitions))
    (turn : ∀ before key entry record worked, Coherent context definitions before →
      Settling context before key entry record worked → holds before →
      holds (worked.complete key record)) :
    ∃ graph registry notices,
      resolveGraph context definitions Registry.empty = .ok (graph, registry, notices) ∧
        Finished context definitions graph registry ∧ holds registry := by
  obtain ⟨passes, registry, notices, ended, ⟨coherent, held⟩, settled⟩ :=
    run_passes_keeps
      (fun registry (held : Coherent context definitions registry ∧ holds registry) =>
        held.1.grounded.consistent)
      (fun _ _ _ _ _ held settling =>
        ⟨settling.coherent held.1, turn _ _ _ _ _ held.1 settling held.2⟩)
      0 (seeds definitions) ⟨coherent_seeds distinct, start⟩
  refine ⟨⟨registry.records, passes⟩, registry, (seedAll definitions Registry.empty).2 ++ notices ++
    [.graphResolved registry.records.length passes], ?_, ⟨distinct, coherent, rfl, settled⟩, held⟩
  rw [seeds] at ended
  simp only [resolveGraph, ended]

theorem resolve_graph_finishes (context : Context) (definitions : Definitions)
    (distinct : definitions.keys.Nodup) :
    ∃ graph registry notices,
      resolveGraph context definitions Registry.empty = .ok (graph, registry, notices) ∧
        Finished context definitions graph registry := by
  obtain ⟨graph, registry, notices, resolved, finished, -⟩ :=
    resolve_graph_keeps context definitions distinct (fun _ => True) trivial
      fun _ _ _ _ _ _ _ _ => trivial
  exact ⟨graph, registry, notices, resolved, finished⟩

theorem records_built_seeds (distinct : definitions.keys.Nodup) :
    RecordsBuilt context (seeds definitions) := by
  intro key entry record _ recorded
  rw [recordFor, (seeded_seeds definitions distinct).unrecorded] at recorded
  cases recorded

end DtoForge.Resolution
