import DtoForge.Proofs.Document.Json
import DtoForge.Proofs.Resolution.Coherence
import DtoForge.Proofs.Schema.Equivalence
import DtoForge.Schema.Inference

/-!
The types inferred from an example accept that example. A nested value is checked against a record
that may have been built for another place of the example, so a value is followed through all
schemas of its inferred signature. The digest is assumed not to collide on the inferred nodes.
-/

namespace DtoForge

open Document

namespace Schema

def presentNames (members : Table Value) : List Text :=
  (members.filter fun member => !member.2.isNull).map (·.1)

theorem infer_members (members : Table Value) :
    inferEntries (members.map fun member => (.text member.1, member.2)) =
      members.map fun member => (member.1, infer member.2) := by
  induction members with
  | nil => rfl
  | cons member rest induction => simp [inferEntries, induction, Scalar.nameText]

theorem infer_object (members : Table Value) :
    infer (.object members) = .object (members.map fun member => (member.1, infer member.2))
      (nameSet (presentNames members)) := by
  rw [Value.object, infer, infer_members, exampleRequired, List.filter_map, List.map_map]
  rfl

/-- Under an inferred schema stand schemas inferred from the values in the example, and what stands
for the items of an empty list. -/
theorem inferred_within {value : Value} (json : value.IsJson) {node : Schema}
    (within : (infer value).Within node) :
    node = .unknown none ∨ ∃ inner : Value, inner.IsJson ∧ infer inner = node := by
  induction within with
  | self => exact Or.inr ⟨value, json, rfl⟩
  | property _ member induction =>
      rcases induction with unknown | ⟨inner, innerJson, same⟩
      · cases unknown
      cases innerJson with
      | null | bool | int | float | nan | text => cases same
      | @list items _ => cases items <;> cases same
      | @object members _ _ each =>
          rw [infer_object] at same
          cases same
          obtain ⟨⟨name, item⟩, held, same⟩ := List.mem_map.mp member
          cases same
          exact Or.inr ⟨item, each _ held, rfl⟩
  | items _ induction =>
      rcases induction with unknown | ⟨inner, innerJson, same⟩
      · cases unknown
      cases innerJson with
      | null | bool | int | float | nan | text => cases same
      | @list items each =>
          cases items with
          | nil =>
              cases same
              exact Or.inl rfl
          | cons first rest =>
              cases same
              exact Or.inr ⟨first, each first List.mem_cons_self, rfl⟩
      | object =>
          rw [infer_object] at same
          cases same

theorem inferred_texts_pair_free {value : Value} (json : value.IsJson) :
    ∀ text ∈ (infer value).texts, text.PairFree := by
  cases json with
  | null | bool | int | float | nan | text => exact fun _ held => nomatch held
  | @list items _ => cases items <;> exact fun _ held => nomatch held
  | @object members _ whole _ =>
      rw [infer_object, texts, List.map_map, List.forall_mem_append]
      refine ⟨whole, fun name needed => ?_⟩
      rw [mem_name_set, presentNames] at needed
      exact whole name (List.map_subset _ (List.filter_subset_self _) needed)

end Schema

namespace Resolution

open Registry

/-- The values that a type admits, the names of records looked up in the graph. A list is judged
by its first item. -/
inductive Accepts (graph : TypeGraph) : FieldType → Value → Prop
  | string (value : Text) : Accepts graph (.scalar .string) (.text value)
  | integer (value : Int) : Accepts graph (.scalar .integer) (.int value)
  | number (value : Float) : Accepts graph (.scalar .number) (.float value)
  | nan : Accepts graph (.scalar .number) (.scalar .nan)
  | boolean (value : Bool) : Accepts graph (.scalar .boolean) (.bool value)
  | map (entries : Entries) : Accepts graph .map (.map entries)
  | unknown (value : Value) : Accepts graph .unknown value
  | emptyList (item : FieldType) : Accepts graph (.list item) (.list [])
  | nullFirst (item : FieldType) (rest : List Value) :
      Accepts graph (.list item) (.list (.null :: rest))
  | list {item : FieldType} {first : Value} (rest : List Value)
      (accepted : Accepts graph item first) : Accepts graph (.list item) (.list (first :: rest))
  | record {name : Text} {record : Record} {members : Table Value}
      (found : graph.get? name = some record)
      (keys : members.keys.Perm (record.fields.map (·.dataKey)))
      (required : ∀ field ∈ record.fields, ∀ value, (field.dataKey, value) ∈ members →
        field.required = true → value.isNull = false)
      (accepted : ∀ field ∈ record.fields, ∀ value, (field.dataKey, value) ∈ members →
        value.isNull = false → Accepts graph field.type value) :
      Accepts graph (.record name) (.object members)

variable {context : Context} {definitions : Definitions} {graph : TypeGraph} {registry : Registry}

/-- Every type of a schema with the signature of the inferred one accepts the value. -/
def AcceptedAlike (context : Context) (definitions : Definitions) (registry : Registry)
    (graph : TypeGraph) (value : Value) : Prop :=
  ∀ (enclosing : Entry) (schema : Schema) (type : FieldType),
    Denotes context enclosing registry schema type → definitions.Node schema →
      schema.signature = (Schema.infer value).signature → Accepts graph type value

theorem Finished.record_accepts (finished : Finished context definitions graph registry)
    (free : Schema.CollisionFree definitions.Node) (tell : Schema.UnitsTell definitions.Node)
    {members : Table Value}
    (distinct : members.keys.Nodup)
    (below : ∀ member ∈ members, member.2.isNull = false →
      AcceptedAlike context definitions registry graph member.2)
    (node : definitions.Node (Schema.infer (.object members))) (pair : Text × Entry)
    (held : pair ∈ registry.entries)
    (same : pair.2.schema.signature = (Schema.infer (.object members)).signature) :
    Accepts graph (.record pair.2.typeName) (.object members) := by
  obtain ⟨record, member, -, mirrors⟩ := finished.record_of_entry held
  have pairNode := (finished.coherent.grounded.origin pair held).2.node
  have found := finished.get_record member
  rw [mirrors.name] at found
  have alike := Schema.alike_of_signature free tell pairNode node same
  rw [Schema.infer_object] at alike
  generalize shape : pair.2.schema = schema at alike
  cases alike with
  | @object properties _ required _ children needs =>
  have inferredDistinct : (Table.keys (members.map fun member =>
      (member.1, Schema.infer member.2))).Nodup := by
    rw [Table.keys, List.map_map]
    exact distinct
  obtain ⟨-, sameChildren⟩ := Schema.children_of_perm children inferredDistinct
  -- A field stands for the like of what is inferred under its key.
  have mirrored {field : Field} (fieldHeld : field ∈ record.fields) :
      ∃ schema, (field.dataKey, schema) ∈ properties ∧
        field.required = required.contains field.dataKey ∧
        Denotes context pair.2 registry schema field.type := by
    obtain ⟨property, propertyHeld, mirrored⟩ := mirrors.property_of_field fieldHeld
    have required := mirrored.required
    rw [shape] at propertyHeld required
    rw [mirrored.dataKey]
    exact ⟨property.2, propertyHeld, required, mirrored.denotes⟩
  refine .record found ?_ ?_ ?_
  case refine_1 =>
    have keys := Schema.keys_perm children.symm
    rw [mirrors.data_keys, shape]
    rw [Table.keys, List.map_map] at keys
    exact keys
  case refine_2 =>
    intro field fieldHeld value valueHeld needed
    obtain ⟨schema, -, required, -⟩ := mirrored fieldHeld
    have listed := (needs field.dataKey).mp (by simpa [needed] using required)
    rw [mem_name_set, Schema.presentNames, List.mem_map] at listed
    obtain ⟨member, kept, named⟩ := listed
    obtain ⟨memberHeld, present⟩ := List.mem_filter.mp kept
    have unique := List.inj_on_of_nodup_map distinct memberHeld valueHeld named
    simpa [unique] using present
  case refine_3 =>
    intro field fieldHeld value valueHeld present
    obtain ⟨schema, propertyHeld, -, denotes⟩ := mirrored fieldHeld
    have listed : (field.dataKey, schema) ∈ pair.2.schema.properties := by
      rw [shape]
      exact propertyHeld
    exact below _ valueHeld present _ _ _ denotes (pairNode.of_properties listed)
      (sameChildren _ _ _ propertyHeld (List.mem_map_of_mem valueHeld))

theorem present_of_ne_null {value : Value} (differ : value ≠ .null) : value.isNull = false := by
  unfold Value.isNull
  split
  · exact absurd rfl differ
  · rfl

theorem member_node {members : Table Value} {member : Text × Value} (held : member ∈ members)
    (node : definitions.Node (Schema.infer (.object members))) :
    definitions.Node (Schema.infer member.2) := by
  rw [Schema.infer_object] at node
  exact node.of_properties (List.mem_map_of_mem held)

/-- By induction on the value; the type of a list item denotes the items of a like schema. -/
theorem Finished.accepts (finished : Finished context definitions graph registry)
    (free : Schema.CollisionFree definitions.Node) (tell : Schema.UnitsTell definitions.Node)
    {value : Value} (json : value.IsJson)
    (present : value.isNull = false) (node : definitions.Node (Schema.infer value)) :
    AcceptedAlike context definitions registry graph value := by
  induction json with
  | null => cases present
  | bool value | int value | float value | nan | text value =>
      intro enclosing schema type denotes schemaNode same
      cases Schema.alike_of_signature free tell schemaNode node same
      cases denotes
      constructor
  | @list items each induction =>
      intro enclosing schema type denotes schemaNode same
      cases items with
      | nil =>
          cases Schema.alike_of_signature free tell schemaNode node same
          cases denotes
          exact .emptyList _
      | cons first rest =>
          cases Schema.alike_of_signature free tell schemaNode node same with
          | array sameItems =>
          cases denotes with
          | list inner =>
          by_cases absent : first = .null
          · rw [absent]
            exact .nullFirst _ rest
          · exact .list rest (induction first List.mem_cons_self (present_of_ne_null absent)
              node.items _ _ _ inner schemaNode.items sameItems)
  | @object members distinct _ each induction =>
      have below : ∀ member ∈ members, member.2.isNull = false →
          AcceptedAlike context definitions registry graph member.2 :=
        fun member held present => induction member held present (member_node held node)
      have recorded := finished.record_accepts free tell distinct below node
      intro enclosing schema type denotes schemaNode same
      have alike := Schema.alike_of_signature free tell schemaNode node same
      rw [Schema.infer_object] at alike
      cases denotes with
      | scalar | unknown | list | dangling | reference => cases alike
      | bare | oversize => exact .map _
      | inlined policy small shaped held => exact recorded _ held same
      | promoted policy shaped found =>
          obtain ⟨pair, held, -, signed, rfl⟩ :=
            (finished.coherent.grounded.canonical policy _ _).mp found
          have own := (finished.coherent.grounded.origin pair held).1
          exact recorded pair held (own.symm.trans (signed.trans same))

theorem Finished.declared_accepts (finished : Finished context definitions graph registry)
    (free : Schema.CollisionFree definitions.Node) (tell : Schema.UnitsTell definitions.Node)
    {members : Table Value}
    (json : (Value.object members).IsJson) {key name : Text}
    (declared : (key, Schema.infer (.object members)) ∈ definitions)
    (looked : registry.lookupReference key = some name) :
    Accepts graph (.record name) (.object members) := by
  obtain ⟨distinct, -, each⟩ := json.of_object
  have node : definitions.Node (Schema.infer (.object members)) := ⟨_, declared, .self⟩
  obtain ⟨pair, held, found, represents⟩ := finished.declared_entry declared
  rw [looked, Option.some.injEq] at found
  have same : pair.2.schema.signature = (Schema.infer (.object members)).signature := by
    rcases represents with ⟨-, same⟩ | ⟨-, -, same⟩
    · rw [same]
    · exact (finished.coherent.grounded.origin pair held).1.symm.trans same
  rw [found]
  exact finished.record_accepts free tell distinct
    (fun member memberHeld present =>
      finished.accepts free tell (each member memberHeld) present (member_node memberHeld node))
    node pair held same

def inferredDefinitions (value : Value) : Definitions := [("Inferred", Schema.infer value)]

theorem seed_declares (registry : Registry) (key : Text) (schema : Schema) :
    (registry.seed key schema).2.lookupReference key = some (registry.seed key schema).1 := by
  rcases seed_effect registry key schema with
    ⟨_, -, -, seeded⟩ | ⟨_, -, -, -, seeded⟩ | ⟨_, -, -, seeded⟩ <;>
  · rw [seeded]
    exact Table.get_put_self _ _ _

theorem first_seed_name (key : Text) (schema : Schema) :
    (empty.seed key schema).1 = Naming.typeName key := by
  unfold seed
  split <;> rfl

theorem seeds_inferred (value : Value) :
    (seeds (inferredDefinitions value)).lookupReference "Inferred" = some ("Inferred" : Text) := by
  have name : Naming.typeName "Inferred" = "Inferred" := by decide +kernel
  have declares := seed_declares empty "Inferred" (Schema.infer value)
  rw [first_seed_name, name] at declares
  exact declares

theorem inferred_told {value : Value} (json : value.IsJson) :
    Schema.UnitsTell (inferredDefinitions value).Node := by
  refine Schema.units_tell_of_pair_free ?_
  rintro node ⟨root, declared, within⟩
  obtain rfl := List.mem_singleton.mp declared
  rcases Schema.inferred_within json within with rfl | ⟨inner, innerJson, rfl⟩
  · exact fun _ held => nomatch held
  · exact Schema.inferred_texts_pair_free innerJson

theorem inferred_types_accept_example (context : Context) (members : Table Value)
    (json : (Value.object members).IsJson)
    (free : Schema.CollisionFree (inferredDefinitions (.object members)).Node) :
    ∃ graph registry notices,
      resolveGraph context (inferredDefinitions (.object members)) Registry.empty =
          .ok (graph, registry, notices) ∧
        Accepts graph (.record "Inferred") (.object members) := by
  let definitions := inferredDefinitions (.object members)
  obtain ⟨graph, registry, notices, resolved, finished⟩ :=
    resolve_graph_finishes context definitions (List.nodup_singleton _)
  have looked : registry.lookupReference "Inferred" = some ("Inferred" : Text) := by
    rw [lookupReference, finished.coherent.grounded.declared]
    exact seeds_inferred (.object members)
  exact ⟨graph, registry, notices, resolved,
    finished.declared_accepts free (inferred_told json) json (List.mem_singleton.mpr rfl) looked⟩

def tripExample : Table Value :=
  [("home", .object [("name", .text "Bern")]),
    ("stops", .list [.object [("name", .text "Basel")]]), ("note", .null)]

def inferredTrip : Schema :=
  .object [("home", townShape), ("stops", .array townShape), ("note", .primitive .string none)]
    ["home", "stops"]

theorem trip_example_inferred : Schema.infer (.object tripExample) = inferredTrip := by
  rfl

theorem trip_example_json : (Value.object tripExample).IsJson := by
  have town (name : Text) : (Value.object [("name", .text name)]).IsJson :=
    .object (List.nodup_singleton _) (List.forall_mem_singleton.mpr
      (Text.pair_free_of_string "name"))
      (by simpa using .text name)
  refine .object (by decide) (by decide) ?_
  simp only [tripExample, List.forall_mem_cons, List.not_mem_nil, false_implies, implies_true,
    and_true]
  exact ⟨town _, .list (by simpa using town _), .null⟩

theorem trip_example_collision_free :
    Schema.CollisionFree (inferredDefinitions (.object tripExample)).Node := by
  apply Schema.collision_free_of_distinct
    [.primitive .string none, townShape, .array townShape, inferredTrip]
  · simp [inferredDefinitions, trip_example_inferred]
  · simp [Schema.children, townShape, inferredTrip]
  · decide +kernel

theorem trip_types_accept_example :
    (Value.object tripExample).IsJson ∧
      Schema.CollisionFree (inferredDefinitions (.object tripExample)).Node ∧
      ∃ graph registry notices,
        resolveGraph ⟨.promote, defaultThreshold⟩ (inferredDefinitions (.object tripExample))
            Registry.empty = .ok (graph, registry, notices) ∧
          Accepts graph (.record "Inferred") (.object tripExample) :=
  ⟨trip_example_json, trip_example_collision_free,
    inferred_types_accept_example ⟨.promote, defaultThreshold⟩ tripExample trip_example_json
      trip_example_collision_free⟩

end Resolution

end DtoForge
