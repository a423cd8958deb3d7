import DtoForge.Proofs.Naming.Opening
import DtoForge.Proofs.Resolution.Forest

/-!
Where the names in a graph come from. The raw names are the declared keys and the names of
properties at any depth. What holds of all names that can be made from these holds of every record's
name. The record of a declared key opens as the key does, and the identifier of a field is made from
its own property, with a number behind it where the record has used it before.
-/

namespace DtoForge

/-- A declared key or the name of a property. -/
def Definitions.Mentions (definitions : Definitions) (raw : Text) : Prop :=
  raw ∈ definitions.keys ∨ ∃ node, definitions.Node node ∧ raw ∈ Table.keys node.properties

/-- The identifier is the one that the property gives, or a numbered form of it. -/
def Field.Identified (field : Field) : Prop :=
  field.identifier = Naming.fieldName field.property ∨
    ∃ number, field.identifier = Naming.numbered (Naming.fieldName field.property) number

namespace Resolution

open Registry

variable {context : Context} {definitions : Definitions}

/-! ### The fields of a record -/

theorem fields_identified (context : Context) (entry : Entry) (required : List Text)
    (properties : List (Text × Schema)) (used : List Text) (registry : Registry) :
    ∀ field ∈ (fieldsOf context entry required properties used registry).1, field.Identified := by
  induction properties generalizing used registry with
  | nil => exact List.forall_mem_nil _
  | cons property rest induction =>
      have chosen := Naming.uniquify_cases (Naming.fieldName property.1) used
      exact List.forall_mem_cons.mpr ⟨chosen, induction _ _⟩

theorem record_identified (context : Context) (entry : Entry) (registry : Registry) :
    ∀ field ∈ (recordOf context entry registry).1.fields, field.Identified := by
  unfold recordOf
  cases entry.schema with
  | object properties required =>
    exact fields_identified context entry required properties [] registry
  | array | primitive | reference | unknown => exact List.forall_mem_nil _

def FieldsIdentified (registry : Registry) : Prop :=
  ∀ pair ∈ registry.recordsByKey, ∀ field ∈ pair.2.fields, field.Identified

theorem Settling.fields_identified {before worked : Registry} {key : Text} {entry : Entry}
    {record : Record} (settling : Settling context before key entry record worked)
    (identified : FieldsIdentified before) : FieldsIdentified (worked.complete key record) := by
  intro pair held
  rw [settling.recorded] at held
  rcases Table.mem_put held with old | new
  · exact identified pair old
  · obtain ⟨notices, built⟩ := settling.built
    have made := record_identified context entry (before.begin key).2
    rw [built] at made
    rw [new]
    exact made

/-! ### Declared keys -/

theorem declared_name_opening (key : Text) (taken : List Text) :
    Naming.opensWithDigit (Naming.uniquify (Naming.typeName key) taken) =
      Naming.opensWithDigit key := by
  rw [← Naming.type_name_opens_with_digit key]
  rcases Naming.uniquify_cases (Naming.typeName key) taken with same | ⟨number, same⟩
  · rw [same]
  · rw [same, Naming.numbered_opens_with_digit (Naming.type_name_plain key)]

theorem seeds_open (definitions : Definitions) :
    EntriesHave (fun entry => Naming.opensWithDigit entry.typeName =
      Naming.opensWithDigit entry.key)
      (seeds definitions) :=
  seeds_have definitions fun definition _ taken => declared_name_opening definition.1 taken

variable {registry : Registry}

/-- The definition of another key has the shape of this one; such keys share a record. -/
def ShapeShared (definitions : Definitions) (definition : Text × Schema) : Prop :=
  ∃ other ∈ definitions, other.1 ≠ definition.1 ∧ other.2.hasProperties = true ∧
    other.2.signature = definition.2.signature

theorem Finished.declared_opening {graph : TypeGraph}
    (finished : Finished context definitions graph registry) {definition : Text × Schema}
    (declared : definition ∈ definitions) :
    ∃ record ∈ graph.records, registry.lookupReference definition.1 = some record.name ∧
      (Naming.opensWithDigit record.name = Naming.opensWithDigit definition.1 ∨
        ShapeShared definitions definition) := by
  have seeded := seeded_seeds definitions finished.distinct
  obtain ⟨pair, held, looked, represents⟩ :=
    seeded.references definition.1 definition.2 declared
  obtain ⟨record, stored, -, mirrors⟩ := finished.record_of_entry (finished.seeded_entry held)
  refine ⟨record, stored, ?_, ?_⟩
  · rw [lookupReference, finished.coherent.grounded.declared, mirrors.name]
    exact looked
  rw [mirrors.name]
  by_cases own : pair.1 = definition.1
  · rw [← own, ← seeded.consistent.keyed pair held]
    exact Or.inl (seeds_open definitions pair held)
  · obtain ⟨-, shaped, same⟩ := represents.resolve_left fun mine => own mine.1
    obtain ⟨listed, signed, -⟩ := seeded.entries pair held
    exact Or.inr ⟨(pair.1, pair.2.schema), listed, own, shaped, signed.symm.trans same⟩

/-! ### The names of a graph -/

theorem Grounded.mentioned (grounded : Grounded context definitions registry)
    {pair : Text × Entry} (held : pair ∈ registry.entries) :
    ∀ property ∈ pair.2.schema.properties, definitions.Mentions property.1 := by
  intro property member
  have reached := (grounded.origin pair held).2
  exact Or.inr ⟨pair.2.schema, reached.node, List.mem_map_of_mem member⟩

theorem resolve_graph_names (context : Context) (definitions : Definitions)
    (distinct : definitions.keys.Nodup) {holds : Text → Prop}
    (law : NameLaw definitions.Mentions holds) :
    ∃ graph registry notices,
      resolveGraph context definitions Registry.empty = .ok (graph, registry, notices) ∧
        Finished context definitions graph registry ∧
          ∀ record ∈ graph.records, holds record.name ∧
            ∀ field ∈ record.fields, field.Identified := by
  have declared : ∀ definition ∈ definitions, definitions.Mentions definition.1 :=
    fun definition member => Or.inl (List.mem_map_of_mem member)
  have bare : FieldsIdentified (seeds definitions) := by
    rw [FieldsIdentified, (seeded_seeds definitions distinct).unrecorded]
    exact List.forall_mem_nil _
  obtain ⟨graph, registry, notices, resolved, finished, names, identified⟩ :=
    resolve_graph_keeps context definitions distinct
      (fun registry => NamesHave holds registry ∧ FieldsIdentified registry)
      ⟨seeds_named law definitions declared, bare⟩
      fun before key entry record worked coherent settling held =>
        ⟨settling.names_have law
          (coherent.grounded.mentioned (Table.mem_of_get _ _ _ settling.stored)) held.1,
          settling.fields_identified held.2⟩
  refine ⟨graph, registry, notices, resolved, finished, fun record held => ?_⟩
  obtain ⟨pair, stored, recorded, mirrors⟩ := finished.entry_of_record held
  constructor
  · rw [mirrors.name]
    exact names pair stored
  · exact identified _ (Table.mem_of_get _ _ _ recorded)

end Resolution

end DtoForge
