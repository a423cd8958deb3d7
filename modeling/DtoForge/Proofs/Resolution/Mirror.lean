import DtoForge.Proofs.Resolution.Denotation
import Mathlib.Data.List.Forall2

/-!
What building one record gives. The fields follow the properties of the entry's schema, each with
the property's name as its data key and a type that denotes the property's schema; and every entry
registered on the way is named by one of the fields.
-/

namespace DtoForge.Resolution

open Registry

variable {context : Context} {enclosing : Entry}

structure FieldMirrors (context : Context) (enclosing : Entry) (registry : Registry)
    (property : Text × Schema) (field : Field) : Prop where
  propertyName : field.property = property.1
  dataKey : field.dataKey = property.1
  required : field.required = enclosing.schema.required.contains property.1
  denotes : Denotes context enclosing registry property.2 field.type

structure Mirrors (context : Context) (registry : Registry) (entry : Entry) (record : Record) :
    Prop where
  name : record.name = entry.typeName
  signature : record.signature = entry.signature
  scope : record.scope = entry.scope
  fields : List.Forall₂ (FieldMirrors context entry registry) entry.schema.properties record.fields

theorem exists_at_index {α β : Type} {relation : α → β → Prop} {left : List α} {right : List β}
    (related : List.Forall₂ relation left right) {index : Nat} {first : α}
    (stands : left[index]? = some first) :
    ∃ second, right[index]? = some second ∧ relation first second := by
  induction related generalizing index with
  | nil => simp at stands
  | cons head rest induction =>
      cases index with
      | zero =>
          simp only [List.getElem?_cons_zero, Option.some.injEq] at stands
          subst stands
          exact ⟨_, rfl, head⟩
      | succ index => exact induction (by simpa using stands)

theorem exists_of_mem_right {α β : Type} {relation : α → β → Prop} {left : List α} {right : List β}
    (related : List.Forall₂ relation left right) {second : β} (member : second ∈ right) :
    ∃ first ∈ left, relation first second := by
  obtain ⟨index, stands⟩ := List.mem_iff_getElem?.mp member
  obtain ⟨first, found, holds⟩ := exists_at_index related.flip stands
  exact ⟨first, List.mem_of_getElem? found, holds⟩

theorem Mirrors.property_of_field {registry : Registry} {entry : Entry} {record : Record}
    (mirrors : Mirrors context registry entry record) {field : Field}
    (member : field ∈ record.fields) :
    ∃ property ∈ entry.schema.properties, FieldMirrors context entry registry property field :=
  exists_of_mem_right mirrors.fields member

theorem Mirrors.field_of_property {registry : Registry} {entry : Entry} {record : Record}
    (mirrors : Mirrors context registry entry record) {property : Text × Schema}
    (member : property ∈ entry.schema.properties) :
    ∃ field ∈ record.fields, FieldMirrors context entry registry property field :=
  exists_of_mem_right mirrors.fields.flip member

theorem Mirrors.map_names {registry : Registry} {entry : Entry} {record : Record}
    (mirrors : Mirrors context registry entry record) (read : Field → Text)
    (same : ∀ property field, FieldMirrors context entry registry property field →
      read field = property.1) :
    record.fields.map read = Table.keys entry.schema.properties := by
  rw [Table.keys, ← List.forall₂_eq_eq_eq, List.forall₂_map_left_iff, List.forall₂_map_right_iff]
  exact (mirrors.fields.imp fun property field => same property field).flip

theorem Mirrors.property_names {registry : Registry} {entry : Entry} {record : Record}
    (mirrors : Mirrors context registry entry record) :
    record.fields.map (·.property) = Table.keys entry.schema.properties :=
  mirrors.map_names _ fun _ _ field => field.propertyName

theorem Mirrors.data_keys {registry : Registry} {entry : Entry} {record : Record}
    (mirrors : Mirrors context registry entry record) :
    record.fields.map (·.dataKey) = Table.keys entry.schema.properties :=
  mirrors.map_names _ fun _ _ field => field.dataKey

theorem FieldMirrors.mono {before after : Registry} {property : Text × Schema} {field : Field}
    (grown : Grown before after) (mirrors : FieldMirrors context enclosing before property field) :
    FieldMirrors context enclosing after property field :=
  { mirrors with denotes := mirrors.denotes.mono grown }

theorem Mirrors.mono {before after : Registry} {entry : Entry} {record : Record}
    (grown : Grown before after) (mirrors : Mirrors context before entry record) :
    Mirrors context after entry record :=
  { mirrors with fields := mirrors.fields.imp fun _ _ field => field.mono grown }

/-- The registrations made while one record is built, each for an object under a property. -/
inductive Discovery (context : Context) (enclosing : Entry) : Registry → Registry → Prop
  | refl (registry : Registry) : Discovery context enclosing registry registry
  | step {before middle after : Registry} {property : Text × Schema} {name : Text}
      (member : property ∈ enclosing.schema.properties)
      (registration : Registration context enclosing property.2.core name before middle)
      (rest : Discovery context enclosing middle after) : Discovery context enclosing before after

theorem Discovery.keeps (holds : Registry → Prop) {before after : Registry}
    (discovery : Discovery context enclosing before after)
    (step : ∀ (property : Text × Schema) (name : Text) (first second : Registry),
      property ∈ enclosing.schema.properties →
      Registration context enclosing property.2.core name first second →
      holds first → holds second)
    (start : holds before) : holds after := by
  induction discovery with
  | refl => exact start
  | step member registration rest induction =>
      exact induction (step _ _ _ _ member registration start)

theorem Discovery.consistent {before after : Registry}
    (discovery : Discovery context enclosing before after) (sound : Consistent before) :
    Consistent after :=
  discovery.keeps _ (fun _ _ _ _ _ registration _ => registration.consistent) sound

theorem Discovery.grown {before after : Registry}
    (discovery : Discovery context enclosing before after) : Grown before after :=
  discovery.keeps _ (fun _ _ _ _ _ registration first => first.trans registration.grown)
    (Grown.refl before)

theorem Discovery.processed {before after : Registry}
    (discovery : Discovery context enclosing before after) : after.processed = before.processed :=
  discovery.keeps (fun registry => registry.processed = before.processed)
    (fun _ _ _ _ _ registration same => registration.processed.trans same) rfl

theorem Discovery.in_progress {before after : Registry}
    (discovery : Discovery context enclosing before after) :
    after.inProgress = before.inProgress :=
  discovery.keeps (fun registry => registry.inProgress = before.inProgress)
    (fun _ _ _ _ _ registration same => registration.inProgress.trans same) rfl

theorem Discovery.recorded {before after : Registry}
    (discovery : Discovery context enclosing before after) :
    after.recordsByKey = before.recordsByKey :=
  discovery.keeps (fun registry => registry.recordsByKey = before.recordsByKey)
    (fun _ _ _ _ _ registration same => registration.recorded.trans same) rfl

/-- The entries of a registry are old ones or are named by a field. -/
def NamedByFields (before after : Registry) (fields : List Field) : Prop :=
  ∀ pair ∈ after.entries, pair ∈ before.entries ∨
    ∃ field ∈ fields, field.type.recordName? = some pair.2.typeName

theorem data_key_of_property (property identifier : Text) (type : FieldType) (required : Bool) :
    Field.dataKey ⟨property, identifier, type, required,
      if identifier = property then none else some property⟩ = property := by
  unfold Field.dataKey
  by_cases same : identifier = property <;> simp [same]

theorem Outcome.effects {before after : Registry} (property : Text × Schema) {type : FieldType}
    (outcome : Outcome context enclosing before property.2 type after) (sound : Consistent before)
    (member : property ∈ enclosing.schema.properties) :
    Consistent after ∧ Denotes context enclosing after property.2 type ∧
      (∀ pair ∈ after.entries, pair ∈ before.entries ∨
        type.recordName? = some pair.2.typeName) ∧
      ∀ last, Discovery context enclosing after last → Discovery context enclosing before last := by
  cases outcome with
  | settled same denotes =>
      subst same
      exact ⟨sound, denotes, fun _ old => Or.inl old, fun _ rest => rest⟩
  | registered registration named denotes =>
      refine ⟨registration.consistent, denotes, ?_, fun _ rest => .step member registration rest⟩
      intro pair held
      rw [registration.entries] at held
      rcases List.mem_append.mp held with old | new
      · exact Or.inl old
      · rw [List.mem_singleton.mp new]
        exact Or.inr named

theorem fields_outcome (context : Context) (enclosing : Entry) {registry : Registry}
    (sound : Consistent registry) (properties : List (Text × Schema)) (used : List Text)
    (declared : ∀ property ∈ properties, property ∈ enclosing.schema.properties) :
    let result := fieldsOf context enclosing enclosing.schema.required properties used registry
    Discovery context enclosing registry result.2.1 ∧
      List.Forall₂ (FieldMirrors context enclosing result.2.1) properties result.1 ∧
      NamedByFields registry result.2.1 result.1 := by
  induction properties generalizing used registry with
  | nil => exact ⟨.refl registry, .nil, fun pair member => Or.inl member⟩
  | cons property rest induction =>
      obtain ⟨name, schema⟩ := property
      have outcome := resolve_outcome context sound (some name) enclosing schema
      simp only [fieldsOf]
      generalize resolve context.inlineThreshold context.policy (some name) (some enclosing)
        registry schema = resolved at outcome ⊢
      obtain ⟨type, middle, noticed⟩ := resolved
      obtain ⟨soundMiddle, denotes, named, extend⟩ :=
        Outcome.effects (name, schema) outcome sound
          (declared (name, schema) List.mem_cons_self)
      obtain ⟨discovery, mirrored, namedLater⟩ :=
        induction soundMiddle (Naming.uniquify (Naming.fieldName name) used :: used)
          fun property member => declared property (List.mem_cons_of_mem _ member)
      refine ⟨extend _ discovery, .cons ?_ mirrored, ?_⟩
      · exact ⟨rfl, data_key_of_property _ _ _ _, rfl, denotes.mono discovery.grown⟩
      · intro pair held
        rcases namedLater pair held with earlier | ⟨field, member, same⟩
        · rcases named pair earlier with old | same
          · exact Or.inl old
          · exact Or.inr ⟨_, List.mem_cons_self, same⟩
        · exact Or.inr ⟨field, List.mem_cons_of_mem _ member, same⟩

theorem record_outcome (context : Context) {registry : Registry} (sound : Consistent registry)
    (entry : Entry) :
    let result := recordOf context entry registry
    Discovery context entry registry result.2.1 ∧ Mirrors context result.2.1 entry result.1 ∧
      NamedByFields registry result.2.1 result.1.fields := by
  unfold recordOf
  cases shape : entry.schema with
  | object properties required =>
      have outcome := fields_outcome context entry sound properties []
        (by simp [shape, Schema.properties])
      simp only [shape, Schema.required] at outcome
      obtain ⟨discovery, mirrored, named⟩ := outcome
      refine ⟨discovery, ⟨rfl, rfl, rfl, ?_⟩, named⟩
      rw [shape]
      exact mirrored
  | array | primitive | reference | unknown =>
      refine ⟨.refl registry, ⟨rfl, rfl, rfl, ?_⟩, fun pair member => Or.inl member⟩
      rw [shape]
      exact .nil

end DtoForge.Resolution
