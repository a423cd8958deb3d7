import DtoForge.Proofs.Resolution.Coherence

/-!
The graph of a run is closed: every name in a field is the name of one record, and every record is
there for a declared definition or for a field of an earlier record.
-/

namespace DtoForge.Resolution

open Registry

/-- A record of a declared key that owns an entry; a key that only names the shape of an earlier
definition owns none. -/
def DeclaredRecord (definitions : Definitions) (registry : Registry) (record : Record) : Prop :=
  ∃ key ∈ definitions.keys, (seeds definitions).hasEntry key = true ∧
    registry.recordFor key = some record

structure ClosedGraph (definitions : Definitions) (registry : Registry) (graph : TypeGraph) :
    Prop where
  namesDistinct : graph.names.Nodup
  referencesMet : ∀ record ∈ graph.records, ∀ field ∈ record.fields, ∀ name,
    field.type.recordName? = some name → graph.names.count name = 1
  noOrphans : ∀ (index : Nat) (record : Record), graph.records[index]? = some record →
    DeclaredRecord definitions registry record ∨
      ∃ earlier < index, ∃ parent, graph.records[earlier]? = some parent ∧
        ∃ field ∈ parent.fields, field.type.recordName? = some record.name
  synthesizedApart : ∀ record ∈ graph.records, ¬ DeclaredRecord definitions registry record →
    record.name ∉ definitions.keys

variable {context : Context} {definitions : Definitions} {graph : TypeGraph} {registry : Registry}

theorem Denotes.named {enclosing : Entry} {schema : Schema} {type : FieldType}
    (denotes : Denotes context enclosing registry schema type) (sound : Consistent registry)
    {name : Text} (refers : type.recordName? = some name) : registry.Named name := by
  induction denotes with
  | scalar | unknown | dangling | bare | oversize => cases refers
  | list inner induction => exact induction refers
  | reference found =>
      cases refers
      exact sound.declaredNamed _ _ found
  | inlined policy small shaped held =>
      cases refers
      exact ⟨_, held, rfl⟩
  | promoted policy shaped found =>
      cases refers
      exact sound.canonicalNamed _ _ found

theorem Finished.references_met (finished : Finished context definitions graph registry)
    (record : Record) (held : record ∈ graph.records) (field : Field)
    (member : field ∈ record.fields) (name : Text)
    (refers : field.type.recordName? = some name) : graph.names.count name = 1 := by
  obtain ⟨pair, -, -, mirrors⟩ := finished.entry_of_record held
  obtain ⟨property, -, mirrored⟩ := mirrors.property_of_field member
  obtain ⟨target, stored, rfl⟩ :=
    mirrored.denotes.named finished.coherent.grounded.consistent refers
  apply List.count_eq_one_of_mem finished.names_distinct
  rw [finished.names]
  exact List.mem_map_of_mem stored

theorem seeded_declared_record (distinct : definitions.keys.Nodup) {pair : Text × Entry}
    {record : Record} (seeded : pair ∈ (seeds definitions).entries)
    (recorded : registry.recordFor pair.1 = some record) :
    DeclaredRecord definitions registry record := by
  obtain ⟨declared, -⟩ := (seeded_seeds definitions distinct).entries pair seeded
  refine ⟨pair.1, Table.mem_keys_of_mem _ _ _ declared, ?_, recorded⟩
  exact (Table.contains_iff _ _).mpr (List.mem_map_of_mem seeded)

theorem Finished.no_orphans (finished : Finished context definitions graph registry)
    (index : Nat) (record : Record) (stored : graph.records[index]? = some record) :
    DeclaredRecord definitions registry record ∨
      ∃ earlier < index, ∃ parent, graph.records[earlier]? = some parent ∧
        ∃ field ∈ parent.fields, field.type.recordName? = some record.name := by
  obtain ⟨pair, place, recorded⟩ := finished.entry_at stored
  rcases finished.coherent.referenced index pair place with seeded | referenced
  · exact Or.inl (seeded_declared_record finished.distinct seeded recorded)
  · obtain ⟨earlier, order, owner, parent, owned, made, named⟩ := referenced
    obtain ⟨found, atPlace, same⟩ := finished.record_at owned
    rw [made] at same
    cases same
    rw [← (finished.mirrors (List.mem_of_getElem? place) recorded).name] at named
    exact Or.inr ⟨earlier, order, parent, atPlace, named⟩

theorem seeds_take_keys (distinct : definitions.keys.Nodup) {key : Text}
    (declared : key ∈ definitions.keys) : key ∈ (seeds definitions).taken := by
  have seeded := seeded_seeds definitions distinct
  obtain ⟨definition, member, rfl⟩ := List.mem_map.mp declared
  obtain ⟨pair, -, looked, -⟩ := seeded.references definition.1 definition.2 member
  exact seeded.consistent.declaredTaken _ _ looked

theorem Finished.synthesized_apart (finished : Finished context definitions graph registry)
    (record : Record) (held : record ∈ graph.records)
    (undeclared : ¬ DeclaredRecord definitions registry record) :
    record.name ∉ definitions.keys := by
  obtain ⟨pair, member, recorded, mirrors⟩ := finished.entry_of_record held
  have apart := finished.coherent.grounded.synthesized member fun seeded =>
    undeclared (seeded_declared_record finished.distinct seeded recorded)
  intro declared
  rw [mirrors.name, apart.named] at declared
  exact apart.fresh (seeds_take_keys finished.distinct declared)

theorem resolved_graph_closed (context : Context) (definitions : Definitions)
    (distinct : definitions.keys.Nodup) :
    ∃ graph registry notices,
      resolveGraph context definitions Registry.empty = .ok (graph, registry, notices) ∧
        ClosedGraph definitions registry graph := by
  obtain ⟨graph, registry, notices, resolved, finished⟩ :=
    resolve_graph_finishes context definitions distinct
  refine ⟨graph, registry, notices, resolved, ?_⟩
  constructor
  case namesDistinct => exact finished.names_distinct
  case referencesMet => exact finished.references_met
  case noOrphans => exact finished.no_orphans
  case synthesizedApart => exact finished.synthesized_apart

theorem trip_graph_closed :
    tripSchemas.keys.Nodup ∧ ∃ graph registry notices,
      resolveGraph ⟨.inline, defaultThreshold⟩ tripSchemas Registry.empty =
          .ok (graph, registry, notices) ∧
        ClosedGraph tripSchemas registry graph :=
  ⟨by decide, resolved_graph_closed ⟨.inline, defaultThreshold⟩ tripSchemas (by decide)⟩

end DtoForge.Resolution
