import DtoForge.Proofs.Naming.Fresh
import DtoForge.Proofs.Resolution.BreadthFirst

/-!
Records as portraits of schemas. Each record of a graph stands for one schema: the definition of its
key, or the object under the property that registered it. The record bears the signature of this
schema and has a field for every property in order, under identifiers that differ from each other.
Nothing is said here about the types of the fields.
-/

namespace DtoForge

/-- A field shows a property: its name, whether it is required, and its key in the data. The
identifier is made from the name, with a number behind it where the record has used it before. -/
structure Field.Portrays (required : List Text) (property : Text × Schema) (field : Field) :
    Prop where
  propertyName : field.property = property.1
  required : field.required = true ↔ property.1 ∈ required
  identifier : field.identifier = Naming.fieldName property.1 ∨
    ∃ number ≥ 2, field.identifier = Naming.numbered (Naming.fieldName property.1) number
  dataKey : field.dataKey = property.1
  wireKey : field.wireKey = none ↔ field.identifier = property.1

/-- A record shows a schema: one field for each property in order, and none for anything but an
object. -/
structure Record.Portrays (record : Record) (schema : Schema) : Prop where
  signature : record.signature = schema.signature
  fields : List.Forall₂ (Field.Portrays schema.required) schema.properties record.fields
  identifiers : (record.fields.map (·.identifier)).Nodup
  fieldless : (∀ properties required, schema ≠ .object properties required) → record.fields = []

namespace Resolution

open Registry

/-! ### The fields of a record -/

variable {context : Context} {registry : Registry}

theorem fields_portray (context : Context) (entry : Entry) (required : List Text)
    (properties : List (Text × Schema)) (used : List Text) (registry : Registry) :
    List.Forall₂ (Field.Portrays required) properties
      (fieldsOf context entry required properties used registry).1 := by
  induction properties generalizing used registry with
  | nil => exact .nil
  | cons property rest induction =>
      apply List.Forall₂.cons _ (induction _ _)
      constructor
      case propertyName => rfl
      case required => simp
      case identifier => exact Naming.uniquify_numbered _ _
      case dataKey => exact data_key_of_property _ _ _ _
      case wireKey => simp

theorem field_identifiers_choices (context : Context) (entry : Entry) (required : List Text)
    (properties : List (Text × Schema)) (used : List Text) (registry : Registry) :
    (fieldsOf context entry required properties used registry).1.map (·.identifier) =
      Naming.choices (properties.map fun property => (Naming.fieldName property.1, none)) used := by
  induction properties generalizing used registry with
  | nil => rfl
  | cons property rest induction => exact congrArg (_ :: ·) (induction _ _)

theorem field_identifiers_cover (context : Context) (entry : Entry) (required : List Text)
    (properties : List (Text × Schema)) (used : List Text) (registry : Registry) :
    let fields := (fieldsOf context entry required properties used registry).1
    ∀ field ∈ fields, Naming.fieldName field.property ∈ used ∨
      Naming.fieldName field.property ∈ fields.map (·.identifier) := by
  induction properties generalizing used registry with
  | nil => exact List.forall_mem_nil _
  | cons property rest induction =>
      intro fields field held
      rcases List.mem_cons.mp held with rfl | held
      · by_cases taken : Naming.fieldName property.1 ∈ used
        · exact Or.inl taken
        · exact Or.inr (List.mem_cons.mpr (Or.inl (Naming.uniquify_of_free taken none).symm))
      · rcases induction (Naming.uniquify (Naming.fieldName property.1) used :: used) _ field
          held with
          earlier | later
        · rcases List.mem_cons.mp earlier with same | old
          · exact Or.inr (List.mem_cons.mpr (Or.inl same))
          · exact Or.inl old
        · exact Or.inr (List.mem_cons_of_mem _ later)

theorem record_portrays (context : Context) (entry : Entry) (registry : Registry)
    (signed : entry.signature = entry.schema.signature) :
    (recordOf context entry registry).1.Portrays entry.schema := by
  unfold recordOf
  cases shape : entry.schema with
  | object properties required =>
      rw [shape] at signed
      refine ⟨signed, fields_portray context entry required properties [] registry, ?_,
        fun other => absurd rfl (other _ _)⟩
      exact field_identifiers_choices context entry required properties [] registry ▸
        Naming.choices_distinct _ _
  | array | primitive | reference | unknown =>
      rw [shape] at signed
      exact ⟨signed, .nil, List.nodup_nil, fun _ => rfl⟩

theorem record_identifiers_cover (context : Context) (entry : Entry) (registry : Registry) :
    ∀ field ∈ (recordOf context entry registry).1.fields, Naming.fieldName field.property ∈
      (recordOf context entry registry).1.fields.map (·.identifier) := by
  unfold recordOf
  cases entry.schema with
  | object properties required =>
      intro field held
      exact (field_identifiers_cover context entry required properties [] registry field
        held).resolve_left List.not_mem_nil
  | array | primitive | reference | unknown => exact List.forall_mem_nil _

/-! ### The schema of a record -/

/-- The schema that a key was registered for: its definition, or the object under the property whose
resolving added the key. -/
inductive Origin (context : Context) (definitions : Definitions) (registry : Registry)
    (key : Text) : Schema → Prop
  | declared {schema : Schema} (listed : (key, schema) ∈ definitions) :
      Origin context definitions registry key schema
  | nested {turn index : Nat} {parent : Text × Entry} {property : Text × Schema}
      (undeclared : key ∉ definitions.keys)
      (creates : Creates context (seeds definitions) registry.entries.keys turn index key)
      (encloses : registry.entries[turn]? = some parent)
      (stands : parent.2.schema.properties[index]? = some property)
      (shaped : property.2.core.hasProperties = true) :
      Origin context definitions registry key property.2.core

variable {definitions : Definitions} {graph : TypeGraph} {pair : Text × Entry} {key : Text}

theorem Finished.has_origin (finished : Finished context definitions graph registry)
    (turns : Turns context (seeds definitions) registry.entries.keys registry)
    (held : pair ∈ registry.entries) :
    Origin context definitions registry pair.1 pair.2.schema := by
  have seeded := seeded_seeds definitions finished.distinct
  have grounded := finished.coherent.grounded
  have distinct := grounded.consistent.keysDistinct
  by_cases old : pair ∈ (seeds definitions).entries
  · exact .declared (seeded.entries pair old).1
  have fresh := (grounded.synthesized held old).fresh
  obtain ⟨turn, index, parent, -, -, creates, encloses, -⟩ := finished.created_of_new turns held old
  obtain ⟨first, next, here, there, absent, present⟩ := id creates
  obtain ⟨owner, enclosing, property, place, ownerHeld, stands, registration⟩ :=
    here.registers there seeded.consistent absent present
  rw [Table.keys, List.getElem?_map, encloses] at place
  have parentIs : parent = (owner, enclosing) :=
    List.inj_on_of_nodup_map distinct (List.mem_of_getElem? encloses)
      ((here.within turns seeded.consistent).subset ownerHeld) (Option.some.inj place)
  have made : (pair.1, nestedEntry context enclosing property.2.core pair.1) ∈
      registry.entries := by
    apply (there.within turns seeded.consistent).subset
    rw [registration.entries]
    exact List.mem_append_right _ List.mem_cons_self
  have same := List.inj_on_of_nodup_map distinct held made rfl
  have schema : pair.2.schema = property.2.core := congrArg (·.2.schema) same
  rw [parentIs] at encloses
  rw [schema]
  exact .nested (fun declared => fresh (seeds_take_keys finished.distinct declared)) creates
    encloses
    stands registration.shaped

theorem Origin.unique {left right : Schema}
    (turns : Turns context (seeds definitions) registry.entries.keys registry)
    (distinct : definitions.keys.Nodup) (owned : key ∈ registry.entries.keys)
    (one : Origin context definitions registry key left)
    (other : Origin context definitions registry key right) : left = right := by
  have sound := (seeded_seeds definitions distinct).consistent
  cases one with
  | declared listed =>
      cases other with
      | declared again =>
          exact Option.some.inj ((Table.get_of_mem _ _ _ distinct listed).symm.trans
            (Table.get_of_mem _ _ _ distinct again))
      | nested undeclared => exact absurd (Table.mem_keys_of_mem _ _ _ listed) undeclared
  | @nested turn index parent property undeclared creates encloses stands =>
      cases other with
      | declared again => exact absurd (Table.mem_keys_of_mem _ _ _ again) undeclared
      | @nested turn' index' parent' property' _ again enclosesToo standsToo =>
          obtain ⟨place, found⟩ := List.mem_iff_getElem?.mp owned
          have after := (created_order turns sound found found creates again).not.mp
            (Nat.lt_irrefl place)
          have before := (created_order turns sound found found again creates).not.mp
            (Nat.lt_irrefl place)
          obtain ⟨rfl, rfl⟩ : turn = turn' ∧ index = index' := by omega
          rw [encloses] at enclosesToo
          cases enclosesToo
          rw [stands] at standsToo
          cases standsToo
          rfl

theorem records_built_of_resolved {notices : List Notice} (distinct : definitions.keys.Nodup)
    (resolved : resolveGraph context definitions Registry.empty = .ok (graph, registry, notices)) :
    RecordsBuilt context registry := by
  obtain ⟨_, _, _, again, -, built⟩ :=
    resolve_graph_keeps context definitions distinct (RecordsBuilt context)
      (records_built_seeds distinct)
      fun _ _ _ _ _ coherent settling built =>
        settling.records_built coherent.grounded.consistent built
  rw [resolved] at again
  cases again
  exact built

theorem Finished.record_built (finished : Finished context definitions graph registry)
    (built : RecordsBuilt context registry) (held : pair ∈ registry.entries) {record : Record}
    (recorded : registry.recordFor pair.1 = some record) :
    ∃ begun, (recordOf context pair.2 begun).1 = record :=
  built pair.1 pair.2 record (Table.get_of_mem _ _ _
    finished.coherent.grounded.consistent.keysDistinct held) recorded

theorem Finished.record_portrays (finished : Finished context definitions graph registry)
    (built : RecordsBuilt context registry) (held : pair ∈ registry.entries) {record : Record}
    (recorded : registry.recordFor pair.1 = some record) : record.Portrays pair.2.schema := by
  obtain ⟨begun, made⟩ := finished.record_built built held recorded
  rw [← made]
  exact Resolution.record_portrays context pair.2 begun
    (finished.coherent.grounded.origin pair held).1

theorem Finished.identifiers_cover (finished : Finished context definitions graph registry)
    (built : RecordsBuilt context registry) (held : pair ∈ registry.entries) {record : Record}
    (recorded : registry.recordFor pair.1 = some record) :
    ∀ field ∈ record.fields,
      Naming.fieldName field.property ∈ record.fields.map (·.identifier) := by
  obtain ⟨begun, made⟩ := finished.record_built built held recorded
  rw [← made]
  exact record_identifiers_cover context pair.2 begun

/-- Definitions with distinct keys have a graph, and every record of it shows the one schema that
its key was registered for. -/
theorem records_portray_origins (context : Context) (definitions : Definitions)
    (distinct : definitions.keys.Nodup) :
    ∃ graph registry notices,
      resolveGraph context definitions Registry.empty = .ok (graph, registry, notices) ∧
        ∀ (position : Nat) (record : Record), graph.records[position]? = some record → ∃ key schema,
          registry.entries.keys[position]? = some key ∧ registry.recordFor key = some record ∧
            (∀ origin, Origin context definitions registry key origin ↔ origin = schema) ∧
              record.Portrays schema := by
  obtain ⟨graph, registry, notices, resolved, finished⟩ :=
    resolve_graph_finishes context definitions distinct
  have built := records_built_of_resolved distinct resolved
  obtain ⟨batches, passes, order, -⟩ := passes_of_resolved distinct resolved
  have turns := passes.turns
  rw [order] at turns
  refine ⟨graph, registry, notices, resolved, fun position record stored => ?_⟩
  obtain ⟨pair, place, recorded⟩ := finished.entry_at stored
  have held := List.mem_of_getElem? place
  have origin := finished.has_origin turns held
  refine ⟨pair.1, pair.2.schema, ?_, recorded, fun other => ?_,
    finished.record_portrays built held recorded⟩
  · rw [Table.keys, List.getElem?_map, place]
    rfl
  constructor
  · intro also
    exact also.unique turns distinct (List.mem_map_of_mem held) origin
  · rintro rfl
    exact origin

theorem trips_portray_origins :
    tripSchemas.keys.Nodup ∧ ∃ graph registry notices,
      resolveGraph ⟨.inline, 2⟩ tripSchemas Registry.empty = .ok (graph, registry, notices) ∧
        ∀ (position : Nat) (record : Record), graph.records[position]? = some record → ∃ key schema,
          registry.entries.keys[position]? = some key ∧ registry.recordFor key = some record ∧
            (∀ origin, Origin ⟨.inline, 2⟩ tripSchemas registry key origin ↔ origin = schema) ∧
              record.Portrays schema :=
  ⟨by decide, records_portray_origins ⟨.inline, 2⟩ tripSchemas (by decide)⟩

end Resolution

end DtoForge
