import DtoForge.Proofs.Resolution.Deduplication
import DtoForge.Proofs.Resolution.Ownership
import DtoForge.Proofs.Resolution.Spelling
import Mathlib.Data.Set.Function

/-!
Private records under inlining. Below each declared object that owns an entry the records form a
tree that copies the tree of its nested objects, down to the objects with more properties than the
threshold allows; these stay maps, and nothing below them is seen. Every private record belongs to
the declared record at its root, and one field of the whole graph names it.
-/

namespace DtoForge.Resolution

open Registry

/-- Where an object stands: at a declared key, or under the arrays of some property, by position, of
an object that stands elsewhere. -/
inductive Place
  | top (key : Text)
  | under (holder : Place) (index : Nat)
  deriving Repr, DecidableEq

def Place.root : Place → Text
  | .top key => key
  | .under holder _ => holder.root

/-- The objects with properties that are reached from the fields of a declared object through
objects small enough to be private. The schema is that of the property; the object is its core. -/
inductive Visible (threshold : Nat) (definitions : Definitions) : Place → Schema → Prop
  | top {key : Text} {schema : Schema} {index : Nat} {property : Text × Schema}
      (declared : (key, schema) ∈ definitions) (owner : (seeds definitions).hasEntry key = true)
      (stands : schema.properties[index]? = some property)
      (shaped : property.2.core.hasProperties = true) :
      Visible threshold definitions (.under (.top key) index) property.2
  | under {holder : Place} {outer : Schema} {index : Nat} {property : Text × Schema}
      (visible : Visible threshold definitions holder outer)
      (small : outer.core.properties.length ≤ threshold)
      (stands : outer.core.properties[index]? = some property)
      (shaped : property.2.core.hasProperties = true) :
      Visible threshold definitions (.under holder index) property.2

/-- The places of the objects that are seen and small enough. -/
def Private (threshold : Nat) (definitions : Definitions) (place : Place) : Prop :=
  ∃ schema, Visible threshold definitions place schema ∧
    schema.core.properties.length ≤ threshold

/-- The record found by following the fields to a place. -/
def recordAt (registry : Registry) (graph : TypeGraph) : Place → Option Record
  | .top key => registry.recordFor key
  | .under holder index =>
    (recordAt registry graph holder).bind fun record =>
      (record.fields[index]?).bind fun field => field.type.recordName?.bind graph.get?

def fieldAt (registry : Registry) (graph : TypeGraph) (holder : Place) (index : Nat) :
    Option Field :=
  (recordAt registry graph holder).bind (·.fields[index]?)

/-- What inlining makes of the definitions: records for exactly the places of small visible objects,
maps for the large ones. -/
structure PrivateForest (threshold : Nat) (definitions : Definitions) (registry : Registry)
    (graph : TypeGraph) : Prop where
  namesDistinct : graph.names.Nodup
  oneToOne : Set.BijOn (recordAt registry graph) {place | Private threshold definitions place}
    {found | ∃ record ∈ graph.records, record.isInline = true ∧ found = some record}
  faithful : ∀ place schema, Visible threshold definitions place schema →
    schema.core.properties.length ≤ threshold → ∃ host record,
      registry.lookupReference place.root = some host ∧
        recordAt registry graph place = some record ∧ record.scope = some host ∧
          record.signature = schema.core.signature ∧
            record.fields.map (·.property) = Table.keys schema.core.properties
  fields : ∀ holder index schema, Visible threshold definitions (.under holder index) schema →
    ∃ field, fieldAt registry graph holder index = some field ∧
      (schema.core.properties.length ≤ threshold → ∃ record,
        recordAt registry graph (.under holder index) = some record ∧
          field.type = underArrays schema (.record record.name)) ∧
      (threshold < schema.core.properties.length → field.type = underArrays schema .map)
  namedOnce : ∀ record ∈ graph.records, record.isInline = true →
    (graph.records.flatMap (·.fields)).countP (·.type.recordName? == some record.name) = 1 ∧
      ∃ holder ∈ graph.records, (∃ field ∈ holder.fields,
        field.type.recordName? = some record.name) ∧ holder.host = record.host

variable {context : Context} {threshold : Nat} {definitions : Definitions} {graph : TypeGraph}
  {registry : Registry}

/-! ### Types of nested objects -/

theorem record_name_under_arrays (schema : Schema) (type : FieldType) :
    (underArrays schema type).recordName? = type.recordName? := by
  fun_induction underArrays schema type with
  | case1 items type induction => exact induction
  | case2 => rfl

theorem named_under_arrays {type : FieldType} {name : Text} (schema : Schema)
    (same : type = underArrays schema (.record name)) : type.recordName? = some name := by
  rw [same, record_name_under_arrays]
  rfl

theorem Denotes.inlined_core {enclosing : Entry} {schema : Schema} {type : FieldType}
    (denotes : Denotes context enclosing registry schema type) (policy : context.policy = .inline)
    (shaped : schema.core.hasProperties = true) :
    (context.inlineThreshold < schema.core.properties.length ∧ type = underArrays schema .map) ∨
      (schema.core.properties.length ≤ context.inlineThreshold ∧
        ∃ name, (name, nestedEntry context enclosing schema.core name) ∈ registry.entries ∧
          type = underArrays schema (.record name)) := by
  induction denotes with
  | scalar | unknown | dangling | reference | bare => cases shaped
  | list inner induction =>
      rcases induction shaped with ⟨large, same⟩ | ⟨small, name, held, same⟩
      · exact Or.inl ⟨large, congrArg FieldType.list same⟩
      · exact Or.inr ⟨small, name, held, congrArg FieldType.list same⟩
  | oversize _ large => exact Or.inl ⟨large, rfl⟩
  | inlined _ small _ held => exact Or.inr ⟨small, _, held, rfl⟩
  | promoted promote =>
      rw [policy] at promote
      cases promote

theorem Denotes.source {enclosing : Entry} {schema : Schema} {type : FieldType} {name : Text}
    (denotes : Denotes context enclosing registry schema type) (policy : context.policy = .inline)
    (refers : type.recordName? = some name) :
    (∃ key, registry.lookupReference key = some name) ∨
      (schema.core.hasProperties = true ∧
        schema.core.properties.length ≤ context.inlineThreshold ∧
        (name, nestedEntry context enclosing schema.core name) ∈ registry.entries) := by
  induction denotes with
  | scalar | unknown | dangling | bare | oversize => cases refers
  | list inner induction => exact induction refers
  | reference found =>
      cases refers
      exact Or.inl ⟨_, found⟩
  | inlined _ small shaped held =>
      cases refers
      exact Or.inr ⟨(Schema.has_properties_iff _ _).mpr shaped, small, held⟩
  | promoted promote =>
      rw [policy] at promote
      cases promote

theorem Mirrors.host {entry : Entry} {record : Record}
    (mirrors : Mirrors context registry entry record) : record.host = entry.host := by
  cases scope : entry.scope <;>
    simp [Record.host, Entry.host, mirrors.scope, mirrors.name, scope]

/-! ### Declared and synthesized entries -/

theorem Seeded.owner_named (seeded : Seeded definitions registry) {pair : Text × Entry}
    (held : pair ∈ registry.entries) :
    registry.lookupReference pair.1 = some pair.2.typeName := by
  obtain ⟨declared, signed, -⟩ := seeded.entries pair held
  obtain ⟨other, otherHeld, looked, represents⟩ := seeded.references _ _ declared
  rw [looked]
  rcases represents with ⟨same, -⟩ | ⟨shaped, otherShaped, same⟩
  · rw [List.inj_on_of_nodup_map seeded.consistent.keysDistinct otherHeld held same]
  · have listed := (seeded.canonical _ _).mpr ⟨other, otherHeld, otherShaped, same, rfl⟩
    have ownListed := (seeded.canonical _ _).mpr ⟨pair, held, shaped, signed, rfl⟩
    rw [← listed, ownListed]

theorem Finished.seeded_entry (finished : Finished context definitions graph registry)
    {pair : Text × Entry} (seeded : pair ∈ (seeds definitions).entries) :
    pair ∈ registry.entries := by
  obtain ⟨added, entries, -⟩ := finished.coherent.grounded.added
  exact entries ▸ List.mem_append_left added seeded

theorem Finished.owner_named (finished : Finished context definitions graph registry)
    {pair : Text × Entry} (seeded : pair ∈ (seeds definitions).entries) :
    registry.lookupReference pair.1 = some pair.2.typeName := by
  rw [lookupReference, finished.coherent.grounded.declared]
  exact (seeded_seeds definitions finished.distinct).owner_named seeded

theorem Finished.declared_owner (finished : Finished context definitions graph registry)
    {key : Text} {schema : Schema} (declared : (key, schema) ∈ definitions)
    (owner : (seeds definitions).hasEntry key = true) :
    ∃ pair ∈ (seeds definitions).entries, pair.1 = key ∧ pair.2.schema = schema := by
  obtain ⟨pair, seeded, rfl⟩ := List.mem_map.mp ((Table.contains_iff _ _).mp owner)
  obtain ⟨listed, -⟩ := (seeded_seeds definitions finished.distinct).entries pair seeded
  have same := List.inj_on_of_nodup_map finished.distinct listed declared rfl
  exact ⟨pair, seeded, rfl, congrArg Prod.snd same⟩

theorem Finished.seeded_unscoped (finished : Finished context definitions graph registry)
    {pair : Text × Entry} (seeded : pair ∈ (seeds definitions).entries) : pair.2.scope = none :=
  ((seeded_seeds definitions finished.distinct).entries pair seeded).2.2

theorem Finished.entry_unique (finished : Finished context definitions graph registry)
    {pair other : Text × Entry} (held : pair ∈ registry.entries)
    (otherHeld : other ∈ registry.entries) (same : pair.2.typeName = other.2.typeName) :
    pair = other :=
  List.inj_on_of_nodup_map finished.coherent.grounded.consistent.namesDistinct held otherHeld same

theorem Finished.synthesized (finished : Finished context definitions graph registry)
    {pair : Text × Entry} (held : pair ∈ registry.entries)
    (made : pair ∉ (seeds definitions).entries) :
    pair.2.typeName ∉ (seeds definitions).taken := by
  have synthesized := finished.coherent.grounded.synthesized held made
  rw [synthesized.named]
  exact synthesized.fresh

/-! ### The record at a visible place -/

/-- The entry whose record has the field of a visible place. -/
structure Holder (threshold : Nat) (definitions : Definitions) (registry : Registry)
    (graph : TypeGraph) (place : Place) (index : Nat) (schema : Schema)
    (pair : Text × Entry) : Prop where
  held : pair ∈ registry.entries
  found : recordAt registry graph place = registry.recordFor pair.1
  stands : ∃ name, pair.2.schema.properties[index]? = some (name, schema)
  shaped : schema.core.hasProperties = true
  hosted : registry.lookupReference place.root = some pair.2.host
  origin : (∃ key, place = .top key ∧ pair ∈ (seeds definitions).entries ∧ pair.1 = key) ∨
    Private threshold definitions place ∧ pair.2.scope.isSome = true

variable {place : Place} {index : Nat} {schema : Schema} {pair : Text × Entry}

theorem Finished.named_record (finished : Finished context definitions graph registry)
    {name : Text} (held : pair ∈ registry.entries) (named : pair.2.typeName = name) :
    graph.get? name = registry.recordFor pair.1 := by
  obtain ⟨record, stored, recorded, mirrors⟩ := finished.record_of_entry held
  rw [recorded, ← named, ← mirrors.name]
  exact finished.get_record stored

theorem Finished.same_entry (finished : Finished context definitions graph registry)
    {other : Text × Entry} (held : pair ∈ registry.entries) (otherHeld : other ∈ registry.entries)
    (same : registry.recordFor pair.1 = registry.recordFor other.1) : pair = other := by
  obtain ⟨record, -, recorded, mirrors⟩ := finished.record_of_entry held
  obtain ⟨found, -, otherRecorded, otherMirrors⟩ := finished.record_of_entry otherHeld
  rw [recorded, otherRecorded, Option.some.injEq] at same
  subst same
  exact finished.entry_unique held otherHeld (mirrors.name.symm.trans otherMirrors.name)

theorem record_at_under {record : Record} {field : Field} {name : Text}
    (found : recordAt registry graph place = some record)
    (stands : record.fields[index]? = some field)
    (named : field.type.recordName? = some name) :
    recordAt registry graph (.under place index) = graph.get? name := by
  simp [recordAt, found, stands, named]

/-- The field that the record of an entry has for what stands at a place below. -/
structure HeldField (threshold : Nat) (registry : Registry) (graph : TypeGraph) (place : Place)
    (index : Nat) (schema : Schema) (pair : Text × Entry) (record : Record) (field : Field) :
    Prop where
  stored : record ∈ graph.records
  mirrors : Mirrors ⟨.inline, threshold⟩ registry pair.2 record
  found : recordAt registry graph place = some record
  stands : record.fields[index]? = some field
  denotes : Denotes ⟨.inline, threshold⟩ pair.2 registry schema field.type

theorem Finished.held_field (finished : Finished ⟨.inline, threshold⟩ definitions graph registry)
    (holder : Holder threshold definitions registry graph place index schema pair) :
    ∃ record field, HeldField threshold registry graph place index schema pair record field := by
  obtain ⟨name, stands⟩ := holder.stands
  obtain ⟨record, stored, recorded, mirrors⟩ := finished.record_of_entry holder.held
  obtain ⟨field, found, mirrored⟩ := exists_at_index mirrors.fields stands
  exact ⟨record, field, stored, mirrors, holder.found.trans recorded, found, mirrored.denotes⟩

theorem HeldField.at_place {record : Record} {field : Field}
    (holds : HeldField threshold registry graph place index schema pair record field) :
    fieldAt registry graph place index = some field := by
  rw [fieldAt, holds.found]
  exact holds.stands

/-- A small object below a holder has an entry of its own, scoped to the host of the holder, and
its record is the one found at the place. -/
theorem Finished.private_entry (finished : Finished ⟨.inline, threshold⟩ definitions graph registry)
    {record : Record} {field : Field}
    (holds : HeldField threshold registry graph place index schema pair record field)
    (shaped : schema.core.hasProperties = true)
    (small : schema.core.properties.length ≤ threshold) :
    ∃ name, (name, nestedEntry ⟨.inline, threshold⟩ pair.2 schema.core name) ∈ registry.entries ∧
      recordAt registry graph (.under place index) = registry.recordFor name ∧
        field.type = underArrays schema (.record name) := by
  rcases holds.denotes.inlined_core rfl shaped with ⟨large, -⟩ | ⟨-, name, held, type⟩
  · exact absurd small (Nat.not_le_of_lt large)
  refine ⟨name, held, ?_, type⟩
  rw [record_at_under holds.found holds.stands (named_under_arrays schema type)]
  exact finished.named_record held rfl

/-- Going down one step keeps the host: names are never empty, so a scope is always one. -/
theorem nested_host {enclosing : Entry} (named : enclosing.host ≠ "") (nested : Schema)
    (name : Text) :
    (nestedEntry ⟨.inline, threshold⟩ enclosing nested name).host = enclosing.host :=
  if_neg named

theorem NamesPlain.named (plain : NamesPlain registry) (held : pair ∈ registry.entries) :
    pair.2.typeName ≠ "" := by
  intro empty
  have word := plain pair held
  rw [empty] at word
  exact word.1 rfl

theorem Finished.host_named (finished : Finished context definitions graph registry)
    (plain : NamesPlain registry)
    (holder : Holder threshold definitions registry graph place index schema pair) :
    pair.2.host ≠ "" := by
  obtain ⟨owner, held, named⟩ :=
    finished.coherent.grounded.consistent.declaredNamed _ _ holder.hosted
  rw [← named]
  exact plain.named held

/-- Every visible place has a holder, by induction on the way down to it. -/
theorem Finished.holder_of_visible
    (finished : Finished ⟨.inline, threshold⟩ definitions graph registry)
    (plain : NamesPlain registry) (visible : Visible threshold definitions place schema) :
    ∃ outer index pair, place = .under outer index ∧
      Holder threshold definitions registry graph outer index schema pair := by
  induction visible with
  | top declared owner stands shaped =>
      rename_i key schema index property
      obtain ⟨pair, seeded, rfl, rfl⟩ := finished.declared_owner declared owner
      refine ⟨.top pair.1, index, pair, rfl, finished.seeded_entry seeded, rfl, ⟨_, stands⟩, shaped,
        ?_, Or.inl ⟨_, rfl, seeded, rfl⟩⟩
      rw [Place.root, finished.owner_named seeded, Entry.host, finished.seeded_unscoped seeded]
  | under visible small stands shaped induction =>
      rename_i holder outer index property
      obtain ⟨upper, above, pair, rfl, holds⟩ := induction
      obtain ⟨record, field, holdsField⟩ := finished.held_field holds
      obtain ⟨name, held, found, -⟩ := finished.private_entry holdsField holds.shaped small
      refine ⟨_, index, (name, _), rfl, held, found, ⟨_, stands⟩, shaped, ?_,
        Or.inr ⟨⟨outer, visible, small⟩, rfl⟩⟩
      rw [nested_host (finished.host_named plain holds)]
      exact holds.hosted

/-! ### One record for each place -/

theorem Finished.entry_of_private
    (finished : Finished ⟨.inline, threshold⟩ definitions graph registry)
    (plain : NamesPlain registry) (visible : Visible threshold definitions place schema)
    (small : schema.core.properties.length ≤ threshold) :
    ∃ outer index pair record field name, place = .under outer index ∧
      Holder threshold definitions registry graph outer index schema pair ∧
        HeldField threshold registry graph outer index schema pair record field ∧
          (name, nestedEntry ⟨.inline, threshold⟩ pair.2 schema.core name) ∈ registry.entries ∧
            recordAt registry graph place = registry.recordFor name ∧
              field.type = underArrays schema (.record name) := by
  obtain ⟨outer, index, pair, rfl, holder⟩ := finished.holder_of_visible plain visible
  obtain ⟨record, field, holds⟩ := finished.held_field holder
  obtain ⟨name, held, found, type⟩ := finished.private_entry holds holder.shaped small
  exact ⟨outer, index, pair, record, field, name, rfl, holder, holds, held, found, type⟩

theorem Finished.private_record
    (finished : Finished ⟨.inline, threshold⟩ definitions graph registry)
    (plain : NamesPlain registry) (visible : Visible threshold definitions place schema)
    (small : schema.core.properties.length ≤ threshold) :
    ∃ host record, registry.lookupReference place.root = some host ∧
      recordAt registry graph place = some record ∧ record.scope = some host ∧
        record.signature = schema.core.signature ∧
          record.fields.map (·.property) = Table.keys schema.core.properties := by
  obtain ⟨outer, index, pair, _, _, name, rfl, holder, -, held, found, -⟩ :=
    finished.entry_of_private plain visible small
  obtain ⟨record, -, recorded, mirrors⟩ := finished.record_of_entry held
  exact ⟨pair.2.host, record, holder.hosted, found.trans recorded, mirrors.scope,
    mirrors.signature, mirrors.property_names⟩

theorem Finished.nested_synthesized
    (finished : Finished ⟨.inline, threshold⟩ definitions graph registry) {enclosing : Entry}
    {nested : Schema} {name : Text}
    (held : (name, nestedEntry ⟨.inline, threshold⟩ enclosing nested name) ∈ registry.entries) :
    name ∉ (seeds definitions).taken := by
  refine finished.synthesized held fun seeded => ?_
  cases finished.seeded_unscoped seeded

/-- Different private places hold different records. A private name has one field, so the places
have one holder and one position; the holders are declared keys or private places further up. -/
theorem Finished.private_injective
    (finished : Finished ⟨.inline, threshold⟩ definitions graph registry)
    (owned : Owned definitions registry) (plain : NamesPlain registry) {left right : Place}
    (leftPrivate : Private threshold definitions left)
    (rightPrivate : Private threshold definitions right)
    (same : recordAt registry graph left = recordAt registry graph right) : left = right := by
  induction left generalizing right with
  | top key =>
      obtain ⟨schema, visible, -⟩ := leftPrivate
      cases visible
  | under outer index induction =>
      obtain ⟨schema, visible, small⟩ := leftPrivate
      obtain ⟨rightSchema, rightVisible, rightSmall⟩ := rightPrivate
      obtain ⟨_, _, pair, record, field, name, shape, holder, holds, held, found, type⟩ :=
        finished.entry_of_private plain visible small
      cases shape
      obtain ⟨rightOuter, rightIndex, other, rightRecord, rightField, rightName, rfl, rightHolder,
        rightHolds, rightHeld, rightFound, rightType⟩ :=
        finished.entry_of_private plain rightVisible rightSmall
      rw [found, rightFound] at same
      obtain rfl : name = rightName :=
        congrArg Prod.fst (finished.same_entry held rightHeld same)
      obtain ⟨rfl, rfl⟩ := finished.holder_unique owned holds.stored rightHolds.stored holds.stands
        rightHolds.stands (finished.nested_synthesized held) (named_under_arrays schema type)
        (named_under_arrays rightSchema rightType)
      obtain rfl : pair = other := finished.entry_unique holder.held rightHolder.held
        (holds.mirrors.name.symm.trans rightHolds.mirrors.name)
      rcases holder.origin with ⟨key, rfl, seeded, rfl⟩ | ⟨outerPrivate, within⟩ <;>
        rcases rightHolder.origin with ⟨other, rfl, otherSeeded, rfl⟩ | ⟨otherPrivate, otherWithin⟩
      · rfl
      · simp [finished.seeded_unscoped seeded] at otherWithin
      · simp [finished.seeded_unscoped otherSeeded] at within
      · rw [induction outerPrivate otherPrivate (holds.found.trans rightHolds.found.symm)]

/-- Every synthesized entry stands for a private place, by induction on its number: a field of an
earlier record names it. -/
theorem Finished.private_surjective
    (finished : Finished ⟨.inline, threshold⟩ definitions graph registry) (number : Nat)
    {pair : Text × Entry} (stored : registry.entries[number]? = some pair)
    (made : pair ∉ (seeds definitions).entries) :
    ∃ place schema, Visible threshold definitions place schema ∧
      schema.core.properties.length ≤ threshold ∧ schema.core = pair.2.schema ∧
        recordAt registry graph place = registry.recordFor pair.1 := by
  induction number using Nat.strong_induction_on generalizing pair with
  | _ number induction =>
    have held := List.mem_of_getElem? stored
    have free := finished.synthesized held made
    rcases finished.coherent.referenced number pair stored with
      seeded | ⟨earlier, order, parent, record, parentStored, recorded, field, member, names⟩
    · exact absurd seeded made
    have mirrors := finished.mirrors (List.mem_of_getElem? parentStored) recorded
    obtain ⟨index, stands⟩ := List.mem_iff_getElem?.mp member
    obtain ⟨property, below, mirrored⟩ := exists_at_index mirrors.fields.flip stands
    rcases mirrored.denotes.source rfl names with ⟨key, looked⟩ | ⟨shaped, small, nested⟩
    · have reserved := (finished.coherent.reserves finished.distinct).declared key _ looked
      exact absurd reserved free
    -- The record with the field is a declared one, or it stands for a private place further up.
    have outer : ∃ outer, Visible threshold definitions (.under outer index) property.2 ∧
        recordAt registry graph outer = registry.recordFor parent.1 := by
      by_cases seeded : parent ∈ (seeds definitions).entries
      · obtain ⟨declared, -⟩ :=
          (seeded_seeds definitions finished.distinct).entries parent seeded
        have owner := (Table.contains_iff _ _).mpr (List.mem_map_of_mem seeded)
        exact ⟨.top parent.1, .top declared owner below shaped, rfl⟩
      · obtain ⟨outer, schema, visible, fits, same, found⟩ :=
          induction earlier order parentStored seeded
        rw [← same] at below
        exact ⟨outer, .under visible fits below shaped, found⟩
    obtain ⟨outer, visible, found⟩ := outer
    have same := finished.entry_unique nested held rfl
    refine ⟨.under outer index, property.2, visible, small, by rw [← same]; rfl, ?_⟩
    rw [record_at_under (found.trans recorded) stands names]
    exact finished.named_record held rfl

theorem Finished.private_of_inline
    (finished : Finished ⟨.inline, threshold⟩ definitions graph registry) {record : Record}
    (stored : record ∈ graph.records) (inline : record.isInline = true) :
    ∃ place schema, Visible threshold definitions place schema ∧
      schema.core.properties.length ≤ threshold ∧
        recordAt registry graph place = some record := by
  obtain ⟨pair, held, recorded, mirrors⟩ := finished.entry_of_record stored
  have made : pair ∉ (seeds definitions).entries := by
    intro seeded
    rw [Record.isInline, mirrors.scope, finished.seeded_unscoped seeded] at inline
    cases inline
  obtain ⟨number, numbered⟩ := List.mem_iff_getElem?.mp held
  obtain ⟨place, schema, visible, small, -, found⟩ := finished.private_surjective number numbered
    made
  exact ⟨place, schema, visible, small, found.trans recorded⟩

theorem Finished.inline_holder
    (finished : Finished ⟨.inline, threshold⟩ definitions graph registry)
    (owned : Owned definitions registry) (plain : NamesPlain registry) {record : Record}
    (stored : record ∈ graph.records) (inline : record.isInline = true) :
    (graph.records.flatMap (·.fields)).countP (·.type.recordName? == some record.name) = 1 ∧
      ∃ holder ∈ graph.records, (∃ field ∈ holder.fields,
        field.type.recordName? = some record.name) ∧ holder.host = record.host := by
  obtain ⟨place, schema, visible, small, reached⟩ := finished.private_of_inline stored inline
  obtain ⟨outer, index, pair, holder, field, name, rfl, above, holds, held, found, type⟩ :=
    finished.entry_of_private plain visible small
  obtain ⟨same, -, recorded, mirrors⟩ := finished.record_of_entry held
  obtain rfl : same = record := Option.some.inj (recorded.symm.trans (found.symm.trans reached))
  have once := finished.named_once owned held (finished.nested_synthesized held)
  have host : holder.host = same.host := by
    rw [mirrors.host, holds.mirrors.host, nested_host (finished.host_named plain above)]
  rw [mirrors.name]
  exact ⟨once, holder, holds.stored, ⟨field, List.mem_of_getElem? holds.stands,
    named_under_arrays schema type⟩, host⟩

/-! ### The forest -/

theorem Finished.private_forest
    (finished : Finished ⟨.inline, threshold⟩ definitions graph registry)
    (owned : Owned definitions registry) (plain : NamesPlain registry) :
    PrivateForest threshold definitions registry graph := by
  constructor
  case namesDistinct => exact finished.names_distinct
  case oneToOne =>
    refine ⟨?_, ?_, ?_⟩
    · rintro place ⟨schema, visible, small⟩
      obtain ⟨_, _, pair, _, _, name, -, -, -, held, found, -⟩ :=
        finished.entry_of_private plain visible small
      obtain ⟨record, stored, recorded, mirrors⟩ := finished.record_of_entry held
      refine ⟨record, stored, ?_, found.trans recorded⟩
      rw [Record.isInline, mirrors.scope]
      rfl
    · intro left leftPrivate right rightPrivate same
      exact finished.private_injective owned plain leftPrivate rightPrivate same
    · rintro _ ⟨record, stored, inline, rfl⟩
      obtain ⟨place, schema, visible, small, found⟩ := finished.private_of_inline stored inline
      exact ⟨place, ⟨schema, visible, small⟩, found⟩
  case faithful => exact fun _ _ visible small => finished.private_record plain visible small
  case fields =>
    intro outer index schema visible
    obtain ⟨_, _, pair, shape, holder⟩ := finished.holder_of_visible plain visible
    cases shape
    obtain ⟨record, field, holds⟩ := finished.held_field holder
    refine ⟨field, holds.at_place, fun small => ?_, fun large => ?_⟩
    · obtain ⟨name, held, found, type⟩ := finished.private_entry holds holder.shaped small
      obtain ⟨below, -, recorded, mirrors⟩ := finished.record_of_entry held
      refine ⟨below, found.trans recorded, ?_⟩
      rw [mirrors.name]
      exact type
    · rcases holds.denotes.inlined_core rfl holder.shaped with ⟨-, type⟩ | ⟨small, -⟩
      · exact type
      · exact absurd small (Nat.not_le_of_lt large)
  case namedOnce => exact fun _ stored inline => finished.inline_holder owned plain stored inline

/-- Inlining never fails on definitions with distinct keys, and it leaves a forest of private
records. -/
theorem inlining_builds_forest (threshold : Nat) (definitions : Definitions)
    (distinct : definitions.keys.Nodup) :
    ∃ graph registry notices,
      resolveGraph ⟨.inline, threshold⟩ definitions Registry.empty =
        .ok (graph, registry, notices) ∧
        PrivateForest threshold definitions registry graph := by
  obtain ⟨graph, registry, notices, resolved, finished, owned, plain⟩ :=
    resolve_graph_keeps ⟨.inline, threshold⟩ definitions distinct
      (fun registry => Owned definitions registry ∧ NamesPlain registry)
      ⟨owned_seeds distinct, seeds_plain definitions⟩
      fun _ _ _ _ _ coherent settling held =>
        ⟨settling.owned distinct coherent held.1, settling.names_plain held.2⟩
  exact ⟨graph, registry, notices, resolved, finished.private_forest owned plain⟩

theorem trips_inlined_as_forest :
    tripSchemas.keys.Nodup ∧ ∃ graph registry notices,
      resolveGraph ⟨.inline, 2⟩ tripSchemas Registry.empty = .ok (graph, registry, notices) ∧
        PrivateForest 2 tripSchemas registry graph :=
  ⟨by decide, inlining_builds_forest 2 tripSchemas (by decide)⟩

end DtoForge.Resolution
