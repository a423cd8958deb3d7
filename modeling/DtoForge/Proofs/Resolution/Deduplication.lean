import DtoForge.Proofs.Resolution.Coherence

/-!
Sharing under promotion. The objects with properties under the declared objects get one record for
each signature, whatever their number, and every field names the record of its object. Nothing is
lost under an object that is not visited again: a visited object of the same signature has the same
children, up to signatures. The digest is assumed not to collide on the nodes of the definitions.
-/

namespace DtoForge.Resolution

open Registry

/-- An object with properties that is declared or lies under one that is. -/
def Promotable (definitions : Definitions) (node : Schema) : Prop :=
  node.hasProperties = true ∧
    ∃ pair ∈ definitions, pair.2.hasProperties = true ∧ pair.2.Within node

/-- A type under as many lists as a schema has arrays around its core. -/
def underArrays : Schema → FieldType → FieldType
  | .array items, type => .list (underArrays items type)
  | _, type => type

def shapedBuilds (registry : Registry) : List (Entry × Record) :=
  (builds registry).filter (·.1.schema.hasProperties)

def plainBuilds (registry : Registry) : List (Entry × Record) :=
  (builds registry).filter fun build => !build.1.schema.hasProperties

structure Deduplicated (definitions : Definitions) (registry : Registry) (graph : TypeGraph) :
    Prop where
  built : graph.records = (builds registry).map (·.2)
  shapesDistinct : ((shapedBuilds registry).map (·.2.signature)).Nodup
  shapesExact : ∀ signature, signature ∈ (shapedBuilds registry).map (·.2.signature) ↔
    ∃ node, Promotable definitions node ∧ node.signature = signature
  plainExact : (plainBuilds registry).map (fun build => (build.1.key, build.1.schema)) =
    definitions.filter fun definition => !definition.2.hasProperties
  plainEmpty : ∀ build ∈ plainBuilds registry, build.2.fields = []
  unscoped : ∀ record ∈ graph.records, record.scope = none
  fieldsShared : ∀ build ∈ builds registry, List.Forall₂ (fun property field =>
      field.property = property.1 ∧ (property.2.core.hasProperties = true →
        ∃ record ∈ graph.records, record.signature = property.2.core.signature ∧
          (∀ other ∈ graph.records, other.signature = property.2.core.signature → other = record) ∧
            field.type = underArrays property.2 (.record record.name)))
    build.1.schema.properties build.2.fields

variable {context : Context} {definitions : Definitions} {graph : TypeGraph} {registry : Registry}

/-! ### Entries by signature -/

theorem Reached.promotable {node : Schema} (reached : Reached definitions node)
    (shaped : node.hasProperties = true) : Promotable definitions node := by
  obtain ⟨root, declared, within, inherited⟩ := reached
  exact ⟨shaped, root, declared, inherited shaped, within⟩

theorem Grounded.shaped_unique (grounded : Grounded context definitions registry)
    (policy : context.policy = .promote) {left right : Text × Entry}
    (leftHeld : left ∈ registry.entries) (rightHeld : right ∈ registry.entries)
    (leftShaped : left.2.schema.hasProperties = true)
    (rightShaped : right.2.schema.hasProperties = true)
    (same : left.2.signature = right.2.signature) : left = right := by
  have listed := (grounded.canonical policy left.2.signature left.2.typeName).mpr
    ⟨left, leftHeld, leftShaped, rfl, rfl⟩
  have again := (grounded.canonical policy left.2.signature right.2.typeName).mpr
    ⟨right, rightHeld, rightShaped, same.symm, rfl⟩
  rw [listed, Option.some.injEq] at again
  exact List.inj_on_of_nodup_map grounded.consistent.namesDistinct leftHeld rightHeld again

/-- Without collisions only objects with properties have the signature of one. -/
theorem Grounded.unique_of_signature (grounded : Grounded context definitions registry)
    (policy : context.policy = .promote) (free : Schema.CollisionFree definitions.Node)
    {left right : Text × Entry} (leftHeld : left ∈ registry.entries)
    (rightHeld : right ∈ registry.entries) (shaped : left.2.schema.hasProperties = true)
    (same : left.2.signature = right.2.signature) : left = right := by
  obtain ⟨leftSigned, leftReached⟩ := grounded.origin left leftHeld
  obtain ⟨rightSigned, rightReached⟩ := grounded.origin right rightHeld
  have schemas := leftSigned.symm.trans (same.trans rightSigned)
  have alike := Schema.written_alike_of_signature free leftReached.node rightReached.node schemas
  have rightShaped : right.2.schema.hasProperties = true := alike.hasProperties_eq ▸ shaped
  exact grounded.shaped_unique policy leftHeld rightHeld shaped rightShaped same

theorem Denotes.shared_core {enclosing : Entry} {schema : Schema} {type : FieldType}
    (denotes : Denotes context enclosing registry schema type) (policy : context.policy = .promote)
    (shaped : schema.core.hasProperties = true) :
    ∃ name, registry.canonicalName schema.core.signature = some name ∧
      type = underArrays schema (.record name) := by
  induction denotes with
  | scalar | unknown | dangling | reference | bare => cases shaped
  | list inner induction =>
      obtain ⟨name, found, same⟩ := induction shaped
      exact ⟨name, found, congrArg FieldType.list same⟩
  | oversize inline | inlined inline =>
      rw [policy] at inline
      cases inline
  | promoted _ _ found => exact ⟨_, found, rfl⟩

/-! ### No object is lost -/

/-- The object under the arrays of a node, if it has properties, shares its signature with the
schema of an entry. -/
def Covered (registry : Registry) (node : Schema) : Prop :=
  node.core.hasProperties = true → ∃ pair ∈ registry.entries,
    pair.2.schema.hasProperties = true ∧ pair.2.signature = node.core.signature

theorem Finished.covers_declared (finished : Finished context definitions graph registry)
    {key : Text} {schema : Schema} (declared : (key, schema) ∈ definitions)
    (shaped : schema.hasProperties = true) : Covered registry schema := by
  have bare : schema.core = schema := by
    cases schema with
    | array => cases shaped
    | object | primitive | reference | unknown => rfl
  obtain ⟨pair, held, -, represents⟩ := finished.declared_entry declared
  have signed := (finished.coherent.grounded.origin pair held).1
  intro _
  rw [bare]
  rcases represents with ⟨-, same⟩ | ⟨-, pairShaped, same⟩
  · exact ⟨pair, held, same ▸ shaped, same ▸ signed⟩
  · exact ⟨pair, held, pairShaped, same⟩

theorem Finished.covers_property (finished : Finished context definitions graph registry)
    (policy : context.policy = .promote) (free : Schema.CollisionFree definitions.Node)
    {properties : List (Text × Schema)} {required : List Text} {name : Text}
    {schema : Schema} (node : definitions.Node (.object properties required))
    (member : (name, schema) ∈ properties)
    (covered : Covered registry (.object properties required)) : Covered registry schema := by
  intro shaped
  have grounded := finished.coherent.grounded
  obtain ⟨pair, held, -, same⟩ :=
    covered ((Schema.has_properties_iff _ _).mpr (List.ne_nil_of_mem member))
  obtain ⟨signed, reached⟩ := grounded.origin pair held
  have alike := Schema.written_alike_of_signature free node reached.node (signed ▸ same).symm
  obtain ⟨record, -, -, mirrors⟩ := finished.record_of_entry held
  cases shape : pair.2.schema with
  | array | primitive | reference | unknown => rw [shape] at alike; cases alike
  | object others needed =>
      rw [shape] at alike
      cases alike with
      | object children names =>
      obtain ⟨key, other, otherMember, -, otherSame⟩ := Schema.property_of_written children member
      have listed : (key, other) ∈ pair.2.schema.properties := shape ▸ otherMember
      have schemaNode : definitions.Node schema := node.of_properties member
      have otherNode : definitions.Node other := reached.node.of_properties listed
      have cores := Schema.core_signature_eq free otherNode schemaNode otherSame
      have coresAlike := Schema.written_alike_of_signature free otherNode.core schemaNode.core cores
      obtain ⟨field, -, mirrored⟩ := mirrors.field_of_property listed
      obtain ⟨shared, found, -⟩ :=
        mirrored.denotes.shared_core policy (coresAlike.hasProperties_eq ▸ shaped)
      obtain ⟨target, stored, targetShaped, targetSame, -⟩ :=
        (grounded.canonical policy _ _).mp found
      exact ⟨target, stored, targetShaped, targetSame.trans cores⟩

theorem Finished.covers (finished : Finished context definitions graph registry)
    (policy : context.policy = .promote) (free : Schema.CollisionFree definitions.Node)
    {root : Text × Schema} (declared : root ∈ definitions)
    (shaped : root.2.hasProperties = true) {node : Schema} (within : root.2.Within node) :
    Covered registry node := by
  induction within with
  | self => exact finished.covers_declared declared shaped
  | property within member induction =>
      exact finished.covers_property policy free ⟨root, declared, within⟩ member induction
  | items _ induction => exact induction

/-! ### The records -/

theorem Finished.filter_builds (finished : Finished context definitions graph registry)
    (keep : Entry → Bool) :
    ((builds registry).filter fun build => keep build.1).map (·.1) =
      (registry.entries.filter fun pair => keep pair.2).map (·.2) := by
  have entries := congrArg (List.filter keep) finished.built_entries
  rw [List.filter_map, List.filter_map] at entries
  exact entries

theorem Finished.shaped_signatures (finished : Finished context definitions graph registry) :
    (shapedBuilds registry).map (·.2.signature) =
      (registry.entries.filter (·.2.schema.hasProperties)).map (·.2.signature) := by
  calc (shapedBuilds registry).map (·.2.signature)
      = ((shapedBuilds registry).map (·.1)).map (·.signature) := by
        rw [List.map_map]
        apply List.map_congr_left
        intro build held
        obtain ⟨-, -, -, mirrors⟩ := finished.entry_of_build (List.mem_of_mem_filter held)
        exact mirrors.signature
    _ = (registry.entries.filter (·.2.schema.hasProperties)).map (·.2.signature) := by
        rw [shapedBuilds, finished.filter_builds (·.schema.hasProperties), List.map_map]
        rfl

theorem Finished.shapes_distinct (finished : Finished context definitions graph registry)
    (policy : context.policy = .promote) :
    ((shapedBuilds registry).map (·.2.signature)).Nodup := by
  have grounded := finished.coherent.grounded
  rw [finished.shaped_signatures]
  refine List.Nodup.map_on ?_ ((List.Nodup.of_map _ grounded.consistent.keysDistinct).filter _)
  intro left leftHeld right rightHeld same
  rw [List.mem_filter] at leftHeld rightHeld
  exact grounded.shaped_unique policy leftHeld.1 rightHeld.1 leftHeld.2 rightHeld.2 same

theorem Finished.shapes_exact (finished : Finished context definitions graph registry)
    (policy : context.policy = .promote) (free : Schema.CollisionFree definitions.Node)
    (signature : Text) : signature ∈ (shapedBuilds registry).map (·.2.signature) ↔
      ∃ node, Promotable definitions node ∧ node.signature = signature := by
  rw [finished.shaped_signatures, List.mem_map]
  constructor
  · rintro ⟨pair, held, rfl⟩
    obtain ⟨stored, shaped⟩ := List.mem_filter.mp held
    obtain ⟨signed, reached⟩ := finished.coherent.grounded.origin pair stored
    exact ⟨pair.2.schema, reached.promotable shaped, signed.symm⟩
  · rintro ⟨node, ⟨shaped, root, declared, rootShaped, within⟩, rfl⟩
    have covered := finished.covers policy free declared rootShaped within
    cases node with
    | array | primitive | reference | unknown => cases shaped
    | object properties required =>
        obtain ⟨pair, stored, pairShaped, same⟩ := covered shaped
        exact ⟨pair, List.mem_filter.mpr ⟨stored, pairShaped⟩, same⟩

theorem Finished.plain_exact (finished : Finished context definitions graph registry) :
    (plainBuilds registry).map (fun build => (build.1.key, build.1.schema)) =
      definitions.filter fun definition => !definition.2.hasProperties := by
  obtain ⟨added, entries, synthesized⟩ := finished.coherent.grounded.added
  have none : added.filter (fun pair => !pair.2.schema.hasProperties) = [] := by
    apply List.filter_eq_nil_iff.mpr
    intro pair member
    simp [(synthesized pair member).shaped]
  calc (plainBuilds registry).map (fun build => (build.1.key, build.1.schema))
      = ((plainBuilds registry).map (·.1)).map fun entry => (entry.key, entry.schema) := by
        rw [List.map_map]
        rfl
    _ = (registry.entries.filter fun pair => !pair.2.schema.hasProperties).map
          fun pair => (pair.2.key, pair.2.schema) := by
        rw [plainBuilds, finished.filter_builds fun entry => !entry.schema.hasProperties,
          List.map_map]
        rfl
    _ = (registry.entries.filter fun pair => !pair.2.schema.hasProperties).map
          fun pair => (pair.1, pair.2.schema) := by
        apply List.map_congr_left
        intro pair held
        rw [finished.coherent.grounded.consistent.keyed pair (List.mem_of_mem_filter held)]
    _ = definitions.filter fun definition => !definition.2.hasProperties := by
        rw [entries, List.filter_append, none, List.append_nil]
        exact (seeded_seeds definitions finished.distinct).shapeless

theorem Finished.plain_empty (finished : Finished context definitions graph registry)
    (build : Entry × Record) (held : build ∈ plainBuilds registry) : build.2.fields = [] := by
  obtain ⟨member, plain⟩ := List.mem_filter.mp held
  obtain ⟨-, -, -, mirrors⟩ := finished.entry_of_build member
  have bare : build.1.schema.properties = [] := by
    cases shape : build.1.schema with
    | array | primitive | reference | unknown => rfl
    | object properties required =>
        cases properties with
        | nil => rfl
        | cons => simp [shape, Schema.hasProperties] at plain
  have fields := mirrors.fields
  rw [bare] at fields
  exact List.forall₂_nil_left_iff.mp fields

theorem Finished.unscoped (finished : Finished context definitions graph registry)
    (policy : context.policy = .promote) (record : Record) (held : record ∈ graph.records) :
    record.scope = none := by
  obtain ⟨pair, stored, -, mirrors⟩ := finished.entry_of_record held
  obtain ⟨added, entries, synthesized⟩ := finished.coherent.grounded.added
  rw [mirrors.scope]
  rw [entries] at stored
  rcases List.mem_append.mp stored with seeded | made
  · exact ((seeded_seeds definitions finished.distinct).entries pair seeded).2.2
  · exact (synthesized pair made).unscoped policy

theorem Finished.shared_record (finished : Finished context definitions graph registry)
    (policy : context.policy = .promote) (free : Schema.CollisionFree definitions.Node)
    {enclosing : Entry} {schema : Schema} {type : FieldType}
    (denotes : Denotes context enclosing registry schema type)
    (shaped : schema.core.hasProperties = true) :
    ∃ record ∈ graph.records, record.signature = schema.core.signature ∧
      (∀ other ∈ graph.records, other.signature = schema.core.signature → other = record) ∧
        type = underArrays schema (.record record.name) := by
  have grounded := finished.coherent.grounded
  obtain ⟨name, found, typed⟩ := denotes.shared_core policy shaped
  obtain ⟨pair, stored, pairShaped, signed, named⟩ := (grounded.canonical policy _ _).mp found
  obtain ⟨record, member, recorded, mirrors⟩ := finished.record_of_entry stored
  refine ⟨record, member, mirrors.signature.trans signed, ?_, ?_⟩
  · intro other otherMember same
    obtain ⟨owner, owned, otherRecorded, otherMirrors⟩ := finished.entry_of_record otherMember
    have pairSame : pair.2.signature = owner.2.signature :=
      signed.trans (same.symm.trans otherMirrors.signature)
    have owners := grounded.unique_of_signature policy free stored owned pairShaped pairSame
    rw [← owners, recorded] at otherRecorded
    exact (Option.some.inj otherRecorded).symm
  · rw [typed, mirrors.name, named]

theorem promotion_deduplicates (threshold : Nat) (definitions : Definitions)
    (distinct : definitions.keys.Nodup) (free : Schema.CollisionFree definitions.Node) :
    ∃ graph registry notices,
      resolveGraph ⟨.promote, threshold⟩ definitions Registry.empty =
          .ok (graph, registry, notices) ∧
        Deduplicated definitions registry graph := by
  obtain ⟨graph, registry, notices, resolved, finished⟩ :=
    resolve_graph_finishes ⟨.promote, threshold⟩ definitions distinct
  refine ⟨graph, registry, notices, resolved, ?_⟩
  constructor
  case built => exact finished.records.trans (built_records registry).symm
  case shapesDistinct => exact finished.shapes_distinct rfl
  case shapesExact => exact finished.shapes_exact rfl free
  case plainExact => exact finished.plain_exact
  case plainEmpty => exact finished.plain_empty
  case unscoped => exact finished.unscoped rfl
  case fieldsShared =>
    intro build held
    obtain ⟨-, -, -, mirrors⟩ := finished.entry_of_build held
    apply mirrors.fields.imp
    intro property field mirrored
    exact ⟨mirrored.propertyName, finished.shared_record rfl free mirrored.denotes⟩

theorem trips_promoted_once :
    tripSchemas.keys.Nodup ∧ Schema.CollisionFree tripSchemas.Node ∧
      ∃ graph registry notices,
        resolveGraph ⟨.promote, defaultThreshold⟩ tripSchemas Registry.empty =
            .ok (graph, registry, notices) ∧
          Deduplicated tripSchemas registry graph :=
  ⟨by decide, trip_schemas_collision_free,
    promotion_deduplicates defaultThreshold tripSchemas (by decide) trip_schemas_collision_free⟩

end DtoForge.Resolution
