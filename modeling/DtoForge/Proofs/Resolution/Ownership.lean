import DtoForge.Proofs.Resolution.Coherence
import Mathlib.Data.List.Pairwise

/-!
Private names under inlining. A field either names a declared definition or a record made up for
this very field, so the private names in the fields are, one for one and in order, the names of the
entries registered for them. At the end of a run no two fields hold the same private name.
-/

namespace DtoForge.Resolution

open Registry

/-- The record that a type names, unless its name is reserved. -/
def privateName (reserved : List Text) (type : FieldType) : Option Text :=
  type.recordName?.filter (· ∉ reserved)

def privateNames (reserved : List Text) (fields : List Field) : List Text :=
  fields.flatMap fun field => (privateName reserved field.type).toList

theorem private_name_iff (reserved : List Text) (type : FieldType) (name : Text) :
    privateName reserved type = some name ↔ type.recordName? = some name ∧ name ∉ reserved := by
  simp [privateName, Option.filter_eq_some_iff]

/-- The names of declared keys are reserved, and no reserved name is free. -/
structure Reserves (reserved : List Text) (registry : Registry) : Prop where
  consistent : Consistent registry
  declared : ∀ key name, registry.lookupReference key = some name → name ∈ reserved
  taken : ∀ name ∈ reserved, name ∈ registry.taken

variable {reserved : List Text} {registry : Registry}

/-- The entries that were added are those that some fields name privately. -/
def AddsNames (before after : Registry) (names : List Text) : Prop :=
  ∃ added : Table Entry, after.entries = before.entries ++ added ∧
    added.map (·.2.typeName) = names

theorem AddsNames.none (registry : Registry) : AddsNames registry registry [] :=
  ⟨[], by simp, rfl⟩

theorem AddsNames.trans {before middle after : Registry} {first second : List Text}
    (earlier : AddsNames before middle first) (later : AddsNames middle after second) :
    AddsNames before after (first ++ second) := by
  obtain ⟨added, grown, named⟩ := earlier
  obtain ⟨more, grownMore, namedMore⟩ := later
  refine ⟨added ++ more, ?_, ?_⟩
  · rw [grownMore, grown, List.append_assoc]
  · rw [List.map_append, named, namedMore]

theorem Reserves.inlined (reserves : Reserves reserved registry) (hint : Option Text)
    (enclosing : Entry) (nested : Schema) :
    let registered := registry.registerInline hint nested nested.signature (some enclosing)
    Reserves reserved registered.2 ∧ AddsNames registry registered.2 [registered.1] ∧
      registered.1 ∉ reserved := by
  intro registered
  have consistent : Consistent registered.2 := reserves.consistent.inlined hint nested _ _
  obtain ⟨name, count, fresh, shape⟩ :=
    inline_effect registry hint nested nested.signature (some enclosing)
  have made : registered = _ := shape
  rw [made] at consistent ⊢
  have grown := add_entries { registry with positionalCount := count }
    ⟨name, name, nested, nested.signature, some enclosing.host⟩
    (reserves.consistent.unowned_of_fresh fresh)
  refine ⟨⟨consistent, reserves.declared, ?_⟩, ⟨_, grown, rfl⟩, ?_⟩
  · intro other held
    exact List.mem_cons_of_mem _ (List.mem_cons_of_mem _ (reserves.taken other held))
  · exact fun held => fresh (reserves.taken name held)

theorem Reserves.resolved (reserves : Reserves reserved registry) (threshold : Nat)
    (hint : Option Text) (enclosing : Entry) (schema : Schema) :
    let result := resolve threshold .inline hint (some enclosing) registry schema
    Reserves reserved result.2.1 ∧
      AddsNames registry result.2.1 (privateName reserved result.1).toList := by
  fun_induction resolve threshold .inline hint (some enclosing) registry schema with
  | case1 pointer =>
      unfold resolveReference
      dsimp only
      split
      · exact ⟨reserves, .none registry⟩
      · rename_i name found
        have reservedName := reserves.declared _ name found
        have missing : privateName reserved (.record name) = none := by
          simp [privateName, FieldType.recordName?, reservedName]
        rw [missing]
        exact ⟨reserves, .none registry⟩
  | case2 properties required =>
      unfold resolveObject
      split
      · exact ⟨reserves, .none registry⟩
      dsimp only
      split
      · exact ⟨reserves, .none registry⟩
      · obtain ⟨kept, added, unreserved⟩ :=
          reserves.inlined hint enclosing (.object properties required)
        have named := (private_name_iff reserved (.record _) _).mpr ⟨rfl, unreserved⟩
        rw [named]
        exact ⟨kept, added⟩
  | case3 items item after notices step induction =>
      rw [step] at induction
      exact induction
  | case4 => exact ⟨reserves, .none registry⟩
  | case5 => exact ⟨reserves, .none registry⟩

theorem Reserves.fields (reserves : Reserves reserved registry) (threshold : Nat)
    (enclosing : Entry)
    (required : List Text) (properties : List (Text × Schema)) (used : List Text) :
    let result := fieldsOf ⟨.inline, threshold⟩ enclosing required properties used registry
    AddsNames registry result.2.1 (privateNames reserved result.1) := by
  induction properties generalizing used registry with
  | nil => exact .none registry
  | cons property rest induction =>
      obtain ⟨name, schema⟩ := property
      obtain ⟨kept, first⟩ := reserves.resolved threshold (some name) enclosing schema
      exact first.trans (induction kept _)

theorem Reserves.recorded (reserves : Reserves reserved registry) (threshold : Nat)
    (enclosing : Entry) :
    let result := recordOf ⟨.inline, threshold⟩ enclosing registry
    AddsNames registry result.2.1 (privateNames reserved result.1.fields) := by
  unfold recordOf
  cases enclosing.schema with
  | object properties required => exact reserves.fields threshold enclosing required properties []
  | array | primitive | reference | unknown => exact .none registry

/-! ### The run -/

def recordedNames (definitions : Definitions) (registry : Registry) : List Text :=
  registry.recordsByKey.flatMap fun pair =>
    privateNames (seeds definitions).taken pair.2.fields

/-- Every synthesized entry is named privately by one field, and no record is stored twice. -/
structure Owned (definitions : Definitions) (registry : Registry) : Prop where
  recordsDistinct : registry.recordsByKey.keys.Nodup
  names : registry.entries.map (·.2.typeName) =
    (seeds definitions).entries.map (·.2.typeName) ++ recordedNames definitions registry

variable {threshold : Nat} {definitions : Definitions} {before worked : Registry} {key : Text}
  {entry : Entry} {record : Record}

theorem owned_seeds (distinct : definitions.keys.Nodup) :
    Owned definitions (seeds definitions) := by
  have unrecorded := (seeded_seeds definitions distinct).unrecorded
  constructor
  · rw [unrecorded]
    exact List.nodup_nil
  · rw [recordedNames, unrecorded]
    simp

theorem Coherent.reserves (coherent : Coherent ⟨.inline, threshold⟩ definitions before)
    (distinct : definitions.keys.Nodup) : Reserves (seeds definitions).taken before where
  consistent := coherent.grounded.consistent
  declared := by
    intro key name looked
    have sound := (seeded_seeds definitions distinct).consistent
    rw [lookupReference, coherent.grounded.declared] at looked
    obtain ⟨pair, held, rfl⟩ := sound.declaredNamed key name looked
    exact (sound.entriesTaken pair held).2
  taken := coherent.grounded.taken

theorem Settling.owned (settling : Settling ⟨.inline, threshold⟩ before key entry record worked)
    (distinct : definitions.keys.Nodup)
    (coherent : Coherent ⟨.inline, threshold⟩ definitions before)
    (owned : Owned definitions before) : Owned definitions (worked.complete key record) := by
  have sound := coherent.grounded.consistent
  obtain ⟨_, progress, -, begun, -⟩ := begin_effect before key settling.pending
  obtain ⟨notices, built⟩ := settling.built
  have reserves := coherent.reserves distinct
  have start : Reserves (seeds definitions).taken (before.begin key).2 := by
    have consistent := sound.begun key settling.pending
    rw [begun] at consistent ⊢
    exact ⟨consistent, reserves.declared, reserves.taken⟩
  have recorded := start.recorded threshold entry
  rw [built] at recorded
  obtain ⟨added, grown, named⟩ := recorded
  rw [begun] at grown
  have absent : key ∉ before.recordsByKey.keys := by
    intro stored
    have processed := (sound.recorded key).mp ((Table.contains_iff _ _).mpr stored)
    exact ((mem_pending_iff before key).mp settling.pending).2 processed
  have records : (worked.complete key record).recordsByKey =
      before.recordsByKey ++ [(key, record)] := by
    rw [settling.recorded, Table.put_of_absent _ _ _ absent]
  constructor
  case recordsDistinct =>
    rw [settling.recorded, Table.keys_put, if_neg absent, ← List.concat_eq_append]
    exact owned.recordsDistinct.concat absent
  case names =>
    have entries : (worked.complete key record).entries = before.entries ++ added := grown
    rw [entries, List.map_append, named, owned.names, recordedNames, recordedNames, records,
      List.flatMap_append, List.append_assoc]
    simp

/-! ### The graph -/

variable {context : Context} {graph : TypeGraph}

theorem filter_map_keys {α : Type} (table : Table α) (distinct : table.keys.Nodup) :
    table.keys.filterMap table.get? = table.map (·.2) := by
  rw [Table.keys, List.filterMap_map, ← List.filterMap_eq_map]
  apply List.filterMap_congr
  intro pair held
  exact Table.get_of_mem table pair.1 pair.2 distinct held

theorem Finished.records_perm (finished : Finished context definitions graph registry)
    (owned : Owned definitions registry) :
    graph.records.Perm (registry.recordsByKey.map (·.2)) := by
  have sound := finished.coherent.grounded.consistent
  have keys : registry.entries.keys.Perm registry.recordsByKey.keys := by
    apply (List.perm_ext_iff_of_nodup sound.keysDistinct owned.recordsDistinct).mpr
    intro key
    rw [← Table.contains_iff registry.recordsByKey]
    refine Iff.trans ?_ (sound.recorded key).symm
    constructor
    · intro held
      by_contra unprocessed
      have pending := (mem_pending_iff registry key).mpr ⟨held, unprocessed⟩
      rw [finished.settled] at pending
      cases pending
    · exact sound.processedOwned key
  rw [finished.records, Registry.records, ← filter_map_keys _ owned.recordsDistinct]
  exact keys.filterMap registry.recordFor

def graphNames (definitions : Definitions) (graph : TypeGraph) : List Text :=
  graph.records.flatMap fun record => privateNames (seeds definitions).taken record.fields

theorem Finished.graph_names_perm (finished : Finished context definitions graph registry)
    (owned : Owned definitions registry) :
    (graphNames definitions graph).Perm (recordedNames definitions registry) := by
  have fields := (finished.records_perm owned).flatMap_right fun record =>
    privateNames (seeds definitions).taken record.fields
  rw [List.flatMap_map] at fields
  exact fields

theorem Finished.graph_names_distinct (finished : Finished context definitions graph registry)
    (owned : Owned definitions registry) : (graphNames definitions graph).Nodup := by
  have distinct := finished.coherent.grounded.consistent.namesDistinct
  rw [owned.names] at distinct
  exact (finished.graph_names_perm owned).nodup_iff.mpr (List.nodup_append.mp distinct).2.1

theorem Finished.mem_graph_names (finished : Finished context definitions graph registry)
    (owned : Owned definitions registry) {pair : Text × Entry} (held : pair ∈ registry.entries)
    (synthesized : pair.2.typeName ∉ (seeds definitions).taken) :
    pair.2.typeName ∈ graphNames definitions graph := by
  rw [(finished.graph_names_perm owned).mem_iff]
  have listed : pair.2.typeName ∈ registry.entries.map (·.2.typeName) := List.mem_map_of_mem held
  rw [owned.names, List.mem_append] at listed
  refine listed.resolve_left fun seeded => ?_
  obtain ⟨other, otherHeld, same⟩ := List.mem_map.mp seeded
  have sound := (seeded_seeds definitions finished.distinct).consistent
  exact synthesized (same ▸ (sound.entriesTaken other otherHeld).2)

theorem count_private_names {reserved : List Text} {name : Text} (free : name ∉ reserved)
    (fields : List Field) : (privateNames reserved fields).count name =
      fields.countP (·.type.recordName? == some name) := by
  induction fields with
  | nil => rfl
  | cons field rest induction =>
      have step : privateNames reserved (field :: rest) =
          (privateName reserved field.type).toList ++ privateNames reserved rest := rfl
      rw [step, List.count_append, induction, List.countP_cons, Nat.add_comm]
      congr 1
      by_cases named : field.type.recordName? = some name
      · rw [(private_name_iff reserved _ _).mpr ⟨named, free⟩, named]
        simp
      · have other : privateName reserved field.type ≠ some name :=
          fun same => named ((private_name_iff reserved _ _).mp same).1
        cases found : privateName reserved field.type <;> simp_all

/-- Over the whole graph exactly one field names a synthesized record. -/
theorem Finished.named_once (finished : Finished context definitions graph registry)
    (owned : Owned definitions registry) {pair : Text × Entry} (held : pair ∈ registry.entries)
    (synthesized : pair.2.typeName ∉ (seeds definitions).taken) :
    (graph.records.flatMap (·.fields)).countP (·.type.recordName? == some pair.2.typeName) = 1 := by
  have all : privateNames (seeds definitions).taken (graph.records.flatMap (·.fields)) =
      graphNames definitions graph := List.flatMap_assoc
  rw [← count_private_names synthesized, all]
  exact List.count_eq_one_of_mem (finished.graph_names_distinct owned)
    (finished.mem_graph_names owned held synthesized)

theorem place_unique {α β : Type} {parts : α → List β} {items : List α}
    (distinct : (items.flatMap parts).Nodup) {i j : Nat} {first second : α}
    (firstHeld : items[i]? = some first) (secondHeld : items[j]? = some second) {value : β}
    (inFirst : value ∈ parts first) (inSecond : value ∈ parts second) : i = j := by
  have apart := List.pairwise_iff_getElem.mp (List.nodup_flatMap.mp distinct).2
  obtain ⟨iBound, rfl⟩ := List.getElem?_eq_some_iff.mp firstHeld
  obtain ⟨jBound, rfl⟩ := List.getElem?_eq_some_iff.mp secondHeld
  rcases Nat.lt_trichotomy i j with before | same | after
  · exact absurd inSecond (apart i j iBound jBound before inFirst)
  · exact same
  · exact absurd inFirst (apart j i jBound iBound after inSecond)

theorem Finished.holder_unique (finished : Finished context definitions graph registry)
    (owned : Owned definitions registry) {left right : Record} (leftHeld : left ∈ graph.records)
    (rightHeld : right ∈ graph.records) {i j : Nat} {first second : Field}
    (firstHeld : left.fields[i]? = some first) (secondHeld : right.fields[j]? = some second)
    {name : Text} (synthesized : name ∉ (seeds definitions).taken)
    (firstNames : first.type.recordName? = some name)
    (secondNames : second.type.recordName? = some name) : left = right ∧ i = j := by
  let reserved := (seeds definitions).taken
  have distinct := finished.graph_names_distinct owned
  have listed {field : Field} (names : field.type.recordName? = some name) :
      name ∈ (privateName reserved field.type).toList := by
    rw [(private_name_iff reserved _ _).mpr ⟨names, synthesized⟩]
    exact List.mem_singleton.mpr rfl
  have inLeft : name ∈ privateNames reserved left.fields :=
    List.mem_flatMap.mpr ⟨first, List.mem_of_getElem? firstHeld, listed firstNames⟩
  have inRight : name ∈ privateNames reserved right.fields :=
    List.mem_flatMap.mpr ⟨second, List.mem_of_getElem? secondHeld, listed secondNames⟩
  obtain ⟨m, leftPlace⟩ := List.mem_iff_getElem?.mp leftHeld
  obtain ⟨n, rightPlace⟩ := List.mem_iff_getElem?.mp rightHeld
  have records := place_unique distinct leftPlace rightPlace inLeft inRight
  rw [records, rightPlace, Option.some.injEq] at leftPlace
  subst leftPlace
  have fieldsDistinct := (List.nodup_flatMap.mp distinct).1 right rightHeld
  exact ⟨rfl, place_unique fieldsDistinct firstHeld secondHeld (listed firstNames)
    (listed secondNames)⟩

end DtoForge.Resolution
