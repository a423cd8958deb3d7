import DtoForge.Proofs.Resolution.Coherence

/-!
Resolution keeps the meaning of the schemas. A graph is cyclic where definitions refer to each
other, so a type is unfolded to a depth, and the meaning of a schema is given to the same depth
without any registry. Both agree at every depth. Definitions that share a record have the same
signature; the digest is assumed not to collide on the nodes of the definitions, and different texts
in them to have different units.
-/

namespace DtoForge.Resolution

open Registry

/-- What a type says about data, down to some depth. The fields of a record are a mapping from the
keys of the data. -/
inductive Meaning
  | stop
  | missing (name : Text)
  | scalar (kind : ScalarType)
  | map
  | unknown
  | list (item : Meaning)
  | record (fields : Text → Option (Bool × Meaning))

def typeUnfolding (named : Text → Meaning) : FieldType → Meaning
  | .scalar kind => .scalar kind
  | .record name => named name
  | .list item => .list (typeUnfolding named item)
  | .map => .map
  | .unknown => .unknown

def fieldUnfolding (named : Text → Meaning) (field : Field) : Text × Bool × Meaning :=
  (field.dataKey, field.required, typeUnfolding named field.type)

def recordUnfolding (graph : TypeGraph) : Nat → Text → Meaning
  | 0, _ => .stop
  | depth + 1, name =>
    match graph.get? name with
    | none => .missing name
    | some record =>
      .record (Table.get? (record.fields.map (fieldUnfolding (recordUnfolding graph depth))))

def unfolding (graph : TypeGraph) (depth : Nat) : FieldType → Meaning :=
  typeUnfolding (recordUnfolding graph depth)

/-- An object that no record is made for where it is nested: it has no properties, or more than a
private record may have. -/
def StaysMap (context : Context) (properties : List (Text × Schema)) : Prop :=
  properties = [] ∨ context.policy = .inline ∧ context.inlineThreshold < properties.length

instance (context : Context) (properties : List (Text × Schema)) :
    Decidable (StaysMap context properties) :=
  inferInstanceAs (Decidable (_ ∨ _ ∧ _))

/-- The meaning of a schema in a field, given what the schemas of records mean. -/
def typeMeaning (context : Context) (definitions : Definitions) (described : Schema → Meaning) :
    Schema → Meaning
  | .primitive kind format => .scalar (scalarType kind format)
  | .unknown _ => .unknown
  | .array items => .list (typeMeaning context definitions described items)
  | .reference pointer =>
    match definitions.get? (Schema.pointerKey pointer) with
    | none => .unknown
    | some schema => described schema
  | .object properties required =>
    if StaysMap context properties then .map else described (.object properties required)

def propertyMeaning (context : Context) (definitions : Definitions) (described : Schema → Meaning)
    (required : List Text) (property : Text × Schema) : Text × Bool × Meaning :=
  (property.1, required.contains property.1,
    typeMeaning context definitions described property.2)

def recordMeaning (context : Context) (definitions : Definitions) : Nat → Schema → Meaning
  | 0, _ => .stop
  | depth + 1, schema =>
    .record (Table.get? (schema.properties.map
      (propertyMeaning context definitions (recordMeaning context definitions depth)
        schema.required)))

def schemaMeaning (context : Context) (definitions : Definitions) (depth : Nat) :
    Schema → Meaning :=
  typeMeaning context definitions (recordMeaning context definitions depth)

/-- The graph of a run says what the definitions say. The fields of each record are related to the
properties in order. -/
structure Faithful (context : Context) (definitions : Definitions) (registry : Registry)
    (graph : TypeGraph) : Prop where
  declared : ∀ key schema, (key, schema) ∈ definitions → ∃ name,
    registry.lookupReference key = some name ∧ ∀ depth,
      unfolding graph depth (.record name) = recordMeaning context definitions depth schema
  built : graph.records = (builds registry).map (·.2)
  records : ∀ build ∈ builds registry, ∀ depth,
    unfolding graph depth (.record build.2.name) =
      recordMeaning context definitions depth build.1.schema
  fields : ∀ build ∈ builds registry, List.Forall₂ (fun property field =>
      field.dataKey = property.1 ∧ ∀ depth,
        unfolding graph depth field.type = schemaMeaning context definitions depth property.2)
    build.1.schema.properties build.2.fields

variable {context : Context} {definitions : Definitions} {graph : TypeGraph} {registry : Registry}

/-! ### Schemas of one signature mean the same -/

/-- Objects of the definitions never name a property twice. -/
def DistinctProperties (definitions : Definitions) : Prop :=
  ∀ node, definitions.Node node → (Table.keys node.properties).Nodup

theorem stays_map_congr {properties others : List (Text × Schema)}
    (children : (Schema.signatures properties).Perm (Schema.signatures others)) :
    StaysMap context properties ↔ StaysMap context others := by
  have lengths := children.length_eq
  rw [Schema.signatures_eq_map, Schema.signatures_eq_map, List.length_map, List.length_map]
    at lengths
  simp only [StaysMap, ← List.length_eq_zero_iff, lengths]

/-- Schemas whose records mean the same wherever their signatures agree. -/
def RespectsSignatures (definitions : Definitions) (described : Schema → Meaning) : Prop :=
  ∀ left right, definitions.Node left → definitions.Node right →
    left.signature = right.signature → described left = described right

theorem type_meaning_congr (free : Schema.CollisionFree definitions.Node)
    (tell : Schema.UnitsTell definitions.Node)
    {described : Schema → Meaning} (respects : RespectsSignatures definitions described) :
    RespectsSignatures definitions (typeMeaning context definitions described) := by
  intro left right leftNode rightNode same
  fun_induction typeMeaning context definitions described left generalizing right with
  | case1 | case2 =>
      cases Schema.alike_of_signature free tell leftNode rightNode same
      rfl
  | case3 items induction =>
      cases Schema.alike_of_signature free tell leftNode rightNode same with
      | array children =>
          rw [typeMeaning, induction _ leftNode.items rightNode.items children]
  | case4 pointer missing =>
      cases Schema.alike_of_signature free tell leftNode rightNode same
      rw [typeMeaning, missing]
  | case5 pointer schema found =>
      cases Schema.alike_of_signature free tell leftNode rightNode same
      rw [typeMeaning, found]
  | case6 properties required stays =>
      cases Schema.alike_of_signature free tell leftNode rightNode same with
      | object children names =>
          rw [typeMeaning, if_pos ((stays_map_congr children).mp stays)]
  | case7 properties required leaves =>
      cases Schema.alike_of_signature free tell leftNode rightNode same with
      | object children names =>
          rw [typeMeaning, if_neg (mt (stays_map_congr children).mpr leaves)]
          exact respects _ _ leftNode rightNode same

theorem property_meaning_mem (free : Schema.CollisionFree definitions.Node)
    (tell : Schema.UnitsTell definitions.Node)
    {described : Schema → Meaning} (respects : RespectsSignatures definitions described)
    {properties others : List (Text × Schema)} {required needed : List Text}
    (leftNode : definitions.Node (.object properties required))
    (rightNode : definitions.Node (.object others needed))
    (children : (Schema.signatures properties).Perm (Schema.signatures others))
    (names : ∀ name, name ∈ required ↔ name ∈ needed) {meaning : Text × Bool × Meaning}
    (member : meaning ∈
      properties.map (propertyMeaning context definitions described required)) :
    meaning ∈ others.map (propertyMeaning context definitions described needed) := by
  obtain ⟨⟨name, schema⟩, held, rfl⟩ := List.mem_map.mp member
  obtain ⟨other, otherHeld, same⟩ := Schema.property_of_perm children held
  refine List.mem_map.mpr ⟨(name, other), otherHeld, ?_⟩
  have needs : needed.contains name = required.contains name := by
    rw [Bool.eq_iff_iff]
    simpa using (names name).symm
  have means : typeMeaning context definitions described other =
      typeMeaning context definitions described schema :=
    type_meaning_congr free tell respects _ _ (rightNode.of_properties otherHeld)
      (leftNode.of_properties held) same
  simp only [propertyMeaning, needs, means]

theorem property_meaning_keys (described : Schema → Meaning) (required : List Text)
    (properties : List (Text × Schema)) :
    Table.keys (properties.map (propertyMeaning context definitions described required)) =
      Table.keys properties := by
  rw [Table.keys, List.map_map]
  rfl

theorem record_meaning_congr (free : Schema.CollisionFree definitions.Node)
    (tell : Schema.UnitsTell definitions.Node)
    (propertiesDistinct : DistinctProperties definitions) (depth : Nat) :
    RespectsSignatures definitions (recordMeaning context definitions depth) := by
  induction depth with
  | zero => exact fun _ _ _ _ _ => rfl
  | succ depth induction =>
      intro left right leftNode rightNode same
      have alike := Schema.alike_of_signature free tell leftNode rightNode same
      cases alike with
      | array | primitive | reference | unknown => rfl
      | object children names =>
          apply congrArg Meaning.record
          apply Table.get_congr
          · rw [property_meaning_keys]
            exact propertiesDistinct _ leftNode
          · rw [property_meaning_keys]
            exact propertiesDistinct _ rightNode
          · intro meaning
            constructor
            · exact property_meaning_mem free tell induction leftNode rightNode children names
            · exact property_meaning_mem free tell induction rightNode leftNode children.symm
                fun name => (names name).symm

/-! ### The graph means what the schemas mean -/

theorem Finished.represented_meaning (finished : Finished context definitions graph registry)
    {described : Schema → Meaning} (respects : RespectsSignatures definitions described)
    {pair : Text × Entry} {key : Text} {schema : Schema} (held : pair ∈ registry.entries)
    (declared : (key, schema) ∈ definitions) (represents : Represents pair key schema) :
    described pair.2.schema = described schema := by
  obtain ⟨signed, reached⟩ := finished.coherent.grounded.origin pair held
  rcases represents with ⟨-, same⟩ | ⟨-, -, same⟩
  · rw [same]
  · have node : definitions.Node schema := ⟨(key, schema), declared, .self⟩
    exact respects _ _ reached.node node (signed.symm.trans same)

theorem Finished.dangling_undeclared (finished : Finished context definitions graph registry)
    {key : Text} (missing : registry.lookupReference key = none) :
    definitions.get? key = none := by
  cases found : definitions.get? key with
  | none => rfl
  | some schema =>
      obtain ⟨pair, -, looked, -⟩ := finished.declared_entry (Table.mem_of_get _ _ _ found)
      rw [missing] at looked
      cases looked

theorem Finished.looked_up_declared (finished : Finished context definitions graph registry)
    {key name : Text} (looked : registry.lookupReference key = some name) :
    ∃ schema, (key, schema) ∈ definitions ∧ ∃ pair ∈ registry.entries,
      pair.2.typeName = name ∧ Represents pair key schema := by
  have grounded := finished.coherent.grounded
  have seeded : (seeds definitions).lookupReference key = some name := by
    rw [lookupReference, ← grounded.declared]
    exact looked
  have declared := (seeded_seeds definitions finished.distinct).declared key name seeded
  obtain ⟨⟨_, schema⟩, member, rfl⟩ := List.mem_map.mp declared
  obtain ⟨pair, held, found, represents⟩ := finished.declared_entry member
  rw [looked] at found
  exact ⟨schema, member, pair, held, (Option.some.inj found).symm, represents⟩

theorem Finished.denoted_meaning (finished : Finished context definitions graph registry)
    {named : Text → Meaning} {described : Schema → Meaning}
    (respects : RespectsSignatures definitions described)
    (agree : ∀ pair ∈ registry.entries, named pair.2.typeName = described pair.2.schema)
    {enclosing : Entry} {schema : Schema} {type : FieldType}
    (denotes : Denotes context enclosing registry schema type) (node : definitions.Node schema) :
    typeUnfolding named type = typeMeaning context definitions described schema := by
  induction denotes with
  | scalar | unknown => rfl
  | list inner induction => exact congrArg Meaning.list (induction node.items)
  | dangling missing => rw [typeMeaning, finished.dangling_undeclared missing, typeUnfolding]
  | reference looked =>
      obtain ⟨schema, declared, pair, held, rfl, represents⟩ := finished.looked_up_declared looked
      rw [typeMeaning, Table.get_of_mem _ _ _ finished.distinct declared, typeUnfolding,
        agree pair held]
      exact finished.represented_meaning respects held declared represents
  | bare required =>
      have stays : StaysMap context [] := Or.inl rfl
      rw [typeMeaning, if_pos stays, typeUnfolding]
  | @oversize properties required policy large =>
      have stays : StaysMap context properties := Or.inr ⟨policy, large⟩
      rw [typeMeaning, if_pos stays, typeUnfolding]
  | @inlined properties required name policy small shaped held =>
      have leaves : ¬ StaysMap context properties := by
        rintro (bare | ⟨-, large⟩)
        · exact shaped bare
        · omega
      rw [typeMeaning, if_neg leaves, typeUnfolding]
      exact agree _ held
  | @promoted properties required name policy shaped found =>
      have leaves : ¬ StaysMap context properties := by
        rintro (bare | ⟨inline, -⟩)
        · exact shaped bare
        · rw [policy] at inline
          cases inline
      obtain ⟨pair, held, -, same, rfl⟩ :=
        (finished.coherent.grounded.canonical policy _ _).mp found
      obtain ⟨signed, reached⟩ := finished.coherent.grounded.origin pair held
      rw [typeMeaning, if_neg leaves, typeUnfolding, agree pair held]
      exact respects _ _ reached.node node (signed.symm.trans same)

theorem Mirrors.fields_of_node {entry : Entry} {record : Record}
    (mirrors : Mirrors context registry entry record) (node : definitions.Node entry.schema) :
    List.Forall₂ (fun property field =>
        definitions.Node property.2 ∧ FieldMirrors context entry registry property field)
      entry.schema.properties record.fields := by
  rw [List.forall₂_and_left]
  exact ⟨fun property member => node.of_properties member, mirrors.fields⟩

theorem Finished.fields_meaning (finished : Finished context definitions graph registry)
    {named : Text → Meaning} {described : Schema → Meaning}
    (respects : RespectsSignatures definitions described)
    (agree : ∀ pair ∈ registry.entries, named pair.2.typeName = described pair.2.schema)
    {entry : Entry} {record : Record} (mirrors : Mirrors context registry entry record)
    (node : definitions.Node entry.schema) :
    List.Forall₂ (fun property field => fieldUnfolding named field =
        propertyMeaning context definitions described entry.schema.required property)
      entry.schema.properties record.fields := by
  refine (mirrors.fields_of_node node).imp ?_
  rintro property field ⟨propertyNode, mirrored⟩
  have type := finished.denoted_meaning respects agree mirrored.denotes propertyNode
  rw [fieldUnfolding, mirrored.dataKey, mirrored.required, type, propertyMeaning]

/-- By induction on the depth: the fields of a record are compared one level further down. -/
theorem Finished.record_meaning (finished : Finished context definitions graph registry)
    (free : Schema.CollisionFree definitions.Node) (tell : Schema.UnitsTell definitions.Node)
    (propertiesDistinct : DistinctProperties definitions) (depth : Nat)
    (pair : Text × Entry) (held : pair ∈ registry.entries) :
    recordUnfolding graph depth pair.2.typeName =
      recordMeaning context definitions depth pair.2.schema := by
  induction depth generalizing pair with
  | zero => rfl
  | succ depth induction =>
      obtain ⟨record, member, -, mirrors⟩ := finished.record_of_entry held
      have found := finished.get_record member
      rw [mirrors.name] at found
      have related := finished.fields_meaning
        (record_meaning_congr free tell propertiesDistinct depth) induction mirrors
        (finished.coherent.grounded.origin pair held).2.node
      have fields : pair.2.schema.properties.map (propertyMeaning context definitions
            (recordMeaning context definitions depth) pair.2.schema.required) =
          record.fields.map (fieldUnfolding (recordUnfolding graph depth)) := by
        rw [← List.forall₂_eq_eq_eq, List.forall₂_map_left_iff, List.forall₂_map_right_iff]
        exact related.imp fun _ _ same => same.symm
      simp only [recordUnfolding, found, recordMeaning, fields]

/-- Where the digest does not collide and different texts have different units, the graph means at
every depth what the schemas mean. -/
theorem resolution_keeps_meaning (context : Context) (definitions : Definitions)
    (distinct : definitions.keys.Nodup) (propertiesDistinct : DistinctProperties definitions)
    (free : Schema.CollisionFree definitions.Node) (tell : Schema.UnitsTell definitions.Node) :
    ∃ graph registry notices,
      resolveGraph context definitions Registry.empty = .ok (graph, registry, notices) ∧
        Faithful context definitions registry graph := by
  obtain ⟨graph, registry, notices, resolved, finished⟩ :=
    resolve_graph_finishes context definitions distinct
  have agree := finished.record_meaning free tell propertiesDistinct
  have respects (depth : Nat) :
      RespectsSignatures definitions (recordMeaning context definitions depth) :=
    record_meaning_congr free tell propertiesDistinct depth
  refine ⟨graph, registry, notices, resolved, ?_⟩
  constructor
  case declared =>
    intro key schema member
    obtain ⟨pair, held, looked, represents⟩ := finished.declared_entry member
    refine ⟨pair.2.typeName, looked, ?_⟩
    intro depth
    exact (agree depth pair held).trans
      (finished.represented_meaning (respects depth) held member represents)
  case built => exact finished.records.trans (built_records registry).symm
  case records =>
    intro build held depth
    obtain ⟨key, stored, -, mirrors⟩ := finished.entry_of_build held
    rw [mirrors.name]
    exact agree depth _ stored
  case fields =>
    intro build held
    obtain ⟨key, stored, -, mirrors⟩ := finished.entry_of_build held
    have node := (finished.coherent.grounded.origin _ stored).2.node
    refine (mirrors.fields_of_node node).imp ?_
    rintro property field ⟨propertyNode, mirrored⟩
    refine ⟨mirrored.dataKey, ?_⟩
    intro depth
    exact finished.denoted_meaning (respects depth) (agree depth) mirrored.denotes propertyNode

theorem trips_keep_meaning :
    tripSchemas.keys.Nodup ∧ DistinctProperties tripSchemas ∧
      Schema.CollisionFree tripSchemas.Node ∧ Schema.UnitsTell tripSchemas.Node ∧
      ∃ graph registry notices,
        resolveGraph ⟨.inline, defaultThreshold⟩ tripSchemas Registry.empty =
            .ok (graph, registry, notices) ∧
          Faithful ⟨.inline, defaultThreshold⟩ tripSchemas registry graph :=
  ⟨by decide, trip_schemas_distinct_properties, trip_schemas_collision_free, trip_schemas_told,
    resolution_keeps_meaning ⟨.inline, defaultThreshold⟩ tripSchemas (by decide)
      trip_schemas_distinct_properties trip_schemas_collision_free trip_schemas_told⟩

def faceShape : Schema := .object [("y", .primitive .string none)] []

def faceHost : Schema := .object [("x", faceReference)] []

def partedHost : Schema := .object [("x", partedReference)] []

/-- A definition whose key is a character, and two objects with references to it, the first one with
the two surrogates of the character apart. -/
def partedSchemas : Definitions :=
  [("A", partedHost), ("B", faceHost), ("😀", faceShape)]

def partedNodes : List Schema :=
  [.primitive .string none, faceReference, partedReference, faceHost, partedHost, faceShape]

theorem parted_nodes_listed (node : Schema) (held : partedSchemas.Node node) :
    node ∈ partedNodes := by
  obtain ⟨root, declared, within⟩ := held
  have roots : ∀ pair ∈ partedSchemas, pair.2 ∈ partedNodes := by
    simp [partedSchemas, partedNodes]
  have closed : ∀ node ∈ partedNodes, ∀ child ∈ node.children, child ∈ partedNodes := by
    simp [partedNodes, Schema.children, partedReference, faceReference, faceHost, partedHost,
      faceShape]
  exact within.mem_of_closed closed (roots root declared)

theorem parted_schemas_distinct_properties : DistinctProperties partedSchemas := by
  intro node held
  have distinct : ∀ node ∈ partedNodes, (Table.keys node.properties).Nodup := by decide
  exact distinct node (parted_nodes_listed node held)

theorem parted_schemas_collision_free : Schema.CollisionFree partedSchemas.Node := by
  apply Schema.collision_free_of_representatives
    [.primitive .string none, faceReference, faceHost, faceShape]
  · intro node held
    have written : ∀ node ∈ partedNodes,
        ∃ other ∈ [Schema.primitive .string none, faceReference, faceHost, faceShape],
          other.encoding.bytes = node.encoding.bytes := by decide +kernel
    exact written node (parted_nodes_listed node held)
  · decide +kernel

/-- The object with the reference to the definition shares the record of the other one, where the
reference leads nowhere. -/
theorem parted_reference_loses_meaning :
    partedSchemas.keys.Nodup ∧ DistinctProperties partedSchemas ∧
      Schema.CollisionFree partedSchemas.Node ∧
      ¬ ∃ graph registry notices,
        resolveGraph ⟨.inline, defaultThreshold⟩ partedSchemas Registry.empty =
            .ok (graph, registry, notices) ∧
          Faithful ⟨.inline, defaultThreshold⟩ partedSchemas registry graph := by
  have distinct : partedSchemas.keys.Nodup := by decide
  refine ⟨distinct, parted_schemas_distinct_properties, parted_schemas_collision_free, ?_⟩
  rintro ⟨graph, registry, notices, resolved, faithful⟩
  obtain ⟨_, _, _, again, finished⟩ :=
    resolve_graph_finishes ⟨.inline, defaultThreshold⟩ partedSchemas distinct
  rw [resolved] at again
  obtain ⟨rfl, rfl, rfl⟩ := again
  have shared : registry.lookupReference "A" = registry.lookupReference "B" := by
    rw [lookupReference, lookupReference, finished.coherent.grounded.declared]
    decide +kernel
  obtain ⟨name, looked, parted⟩ :=
    faithful.declared "A" partedHost (by simp [partedSchemas])
  obtain ⟨other, otherLooked, whole⟩ :=
    faithful.declared "B" faceHost (by simp [partedSchemas])
  rw [shared, otherLooked] at looked
  obtain rfl := Option.some.inj looked
  have nowhere : recordMeaning ⟨.inline, defaultThreshold⟩ partedSchemas 1 partedHost =
      .record (Table.get? [("x", false, .unknown)]) := rfl
  have there : recordMeaning ⟨.inline, defaultThreshold⟩ partedSchemas 1 faceHost =
      .record (Table.get? [("x", false, .stop)]) := rfl
  have same := (parted 1).symm.trans (whole 1)
  rw [nowhere, there] at same
  cases congrFun (Meaning.record.inj same) "x"

end DtoForge.Resolution
