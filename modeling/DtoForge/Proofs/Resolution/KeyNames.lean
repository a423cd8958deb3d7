import DtoForge.Document.Yaml.Reader
import DtoForge.Document.Example
import DtoForge.Proofs.Document.Json
import DtoForge.Proofs.Resolution.Meaning
import DtoForge.Proofs.Schema.Fragments

/-!
What becomes of the keys of a document. Keys of any kind become names by their text, so keys that a
mapping holds apart may be spelled alike. Just then a definition replaces another one, a property
comes twice, and a required name speaks for both; a document in JSON has no such keys. What the text
of a key is, is not treated here.
-/

namespace DtoForge

open Document

/-! ### Documents in JSON -/

theorem Document.Value.IsJson.of_entries {entries : Entries} (json : (Value.map entries).IsJson) :
    (Entries.names entries).Nodup ∧ ∀ entry ∈ entries, entry.2.IsJson := by
  cases json with
  | @object members distinct _ each =>
      have named : Entries.names (members.map fun member => (.text member.1, member.2)) =
          members.keys := by
        rw [Entries.names, List.map_map]
        rfl
      rw [named, List.forall_mem_map]
      exact ⟨distinct, each⟩

namespace Schema

theorem Reads.is_json {value : Value} {entries : Entries} (reads : Reads value entries)
    (json : value.IsJson) : (Value.map entries).IsJson := by
  have under {entries : Entries} {name : Text} {value : Value}
      (json : (Value.map entries).IsJson) (found : entries.get? name = some value) :
      value.IsJson := by
    obtain ⟨entry, held, rfl⟩ := Option.map_eq_some_iff.mp found
    exact json.of_entries.2 entry (List.mem_of_find?_eq_some held)
  induction reads with
  | here object found => exact under json found
  | property object found member below induction =>
      exact induction ((under json found).of_entries.2 _ member)
  | items array found below induction => exact induction (under json found)

theorem Shows.is_json {value : Value} {entries : Entries} (shows : Shows value entries)
    (json : value.IsJson) : (Value.map entries).IsJson := by
  induction shows with
  | here => exact json
  | entry member below induction => exact induction (json.of_entries.2 _ member)
  | first below induction =>
      cases json with
      | list each => exact induction (each _ List.mem_cons_self)

/-! ### Definitions -/

def definitionPlace (name : Text) : Location := ⟨"#/definitions/" ++ name, []⟩

theorem definitions_read {value : Value} {definitions : Definitions}
    (read : definitionsOfValue value = .ok definitions) :
    ∃ entries nodes, value = .map entries ∧ OneEach definitionPlace entries nodes ∧
      definitions = Table.ofList nodes := by
  unfold definitionsOfValue at read
  split at read
  · rename_i entries
    obtain ⟨nodes, childrenRead, same⟩ := map_ok read
    exact ⟨entries, nodes, rfl, children_read childrenRead, same.symm⟩
  · cases read

theorem one_each_iff {entries : Entries} {nodes : Definitions}
    (each : OneEach definitionPlace entries nodes) :
    OneEach definitionPlace entries (Table.ofList nodes) ↔ (Entries.names entries).Nodup := by
  constructor
  · intro kept
    rw [← kept.keys]
    exact Table.of_list_distinct nodes
  · intro distinct
    rw [← each.keys] at distinct
    rw [Table.of_list_of_distinct nodes distinct]
    exact each

theorem definitions_distinct_iff {entries : Entries} {definitions : Definitions}
    (each : OneEach definitionPlace entries definitions) :
    Resolution.DistinctProperties definitions ↔ ∀ entry ∈ entries, ReadsDistinct entry.2 := by
  have rooted : Resolution.DistinctProperties definitions ↔
      ∀ root ∈ definitions.map (·.2), PropertiesDistinct root := by
    rw [List.forall_mem_map]
    constructor
    · exact fun distinct pair held node within => distinct node ⟨pair, held, within⟩
    · rintro distinct node ⟨pair, held, within⟩
      exact distinct pair held node within
  rw [rooted]
  exact each.forall_iff fun _ _ _ _ read => distinct_iff_reads read

end Schema

namespace Resolution

/-! ### Records -/

theorem Finished.data_keys {context : Context} {definitions : Definitions} {graph : TypeGraph}
    {registry : Registry} (finished : Finished context definitions graph registry)
    {record : Record} (held : record ∈ graph.records) :
    ∃ node, definitions.Node node ∧
      record.fields.map (·.dataKey) = Table.keys node.properties := by
  obtain ⟨pair, stored, -, mirrors⟩ := finished.entry_of_record held
  obtain ⟨-, reached⟩ := finished.coherent.grounded.origin pair stored
  exact ⟨pair.2.schema, reached.node, mirrors.data_keys⟩

theorem graph_keys_distinct (context : Context) (definitions : Definitions)
    (distinct : definitions.keys.Nodup) (propertiesDistinct : DistinctProperties definitions) :
    ∃ graph notices, graphOf context definitions = .ok (graph, notices) ∧
      ∀ record ∈ graph.records, (record.fields.map (·.dataKey)).Nodup := by
  obtain ⟨graph, registry, notices, resolved, finished⟩ :=
    resolve_graph_finishes context definitions distinct
  refine ⟨graph, notices, by rw [graphOf, resolved]; rfl, fun record held => ?_⟩
  obtain ⟨node, there, named⟩ := finished.data_keys held
  rw [named]
  exact propertiesDistinct node there

/-- Keys that are spelled alike are all that merges or repeats names: definitions, properties that
are read or inferred, required names, and the keys of records. -/
theorem names_kept_unless_spelled_alike (value : Value) :
    (∀ definitions, Schema.definitionsOfValue value = .ok definitions →
      ∃ entries, value = .map entries ∧
        (Schema.OneEach Schema.definitionPlace entries definitions ↔
          (Entries.names entries).Nodup) ∧
        ((Entries.names entries).Nodup → (DistinctProperties definitions ↔
          ∀ entry ∈ entries, Schema.ReadsDistinct entry.2))) ∧
    (∀ location schema, Schema.ofValue location value = .ok schema →
      (schema.PropertiesDistinct ↔ Schema.ReadsDistinct value)) ∧
    ((Schema.infer value).PropertiesDistinct ↔ Schema.ShowsDistinct value) ∧
    (∀ entries, Schema.Shows value entries →
      (Schema.infer value).Within (Schema.infer (.map entries)) ∧
        ((∀ entry ∈ entries, entry.1.nameText ∈ (Schema.infer (.map entries)).required ↔
          entry.2.isNull = false) ↔ Schema.NullsAgree entries)) ∧
    (∀ context definitions, definitions.keys.Nodup → DistinctProperties definitions →
      ∃ graph notices, graphOf context definitions = .ok (graph, notices) ∧
        ∀ record ∈ graph.records, (record.fields.map (·.dataKey)).Nodup) ∧
    ∀ text, Json.decode text = .ok value →
      Schema.ReadsDistinct value ∧ Schema.ShowsDistinct value ∧
        ∀ entries, value = .map entries → (Entries.names entries).Nodup := by
  refine ⟨?_, fun _ _ => Schema.distinct_iff_reads, Schema.distinct_iff_shows value, ?_,
    graph_keys_distinct, ?_⟩
  · intro definitions read
    obtain ⟨entries, nodes, same, each, rfl⟩ := Schema.definitions_read read
    refine ⟨entries, same, Schema.one_each_iff each, fun distinct => ?_⟩
    exact Schema.definitions_distinct_iff ((Schema.one_each_iff each).mpr distinct)
  · intro entries shows
    refine ⟨shows.within, ?_⟩
    rw [Schema.infer]
    exact Schema.required_by_own_value_iff entries
  · intro text decoded
    have json := Json.decoded_is_json decoded
    refine ⟨fun entries reads => (reads.is_json json).of_entries.1,
      fun entries shows => (shows.is_json json).of_entries.1, ?_⟩
    rintro entries rfl
    exact json.of_entries.1

def mixedEntries : Entries :=
  [(.int 1, .map [(.text "type", .text "object"), (.text "properties", .map
    [(.null, .map [(.text "type", .text "string")]),
      (.bool true, .map [(.text "type", .text "integer")])])])]

def mixedDefinitions : Definitions :=
  [("1", .object [("None", .primitive .string none), ("True", .primitive .integer none)] [])]

theorem mixed_definitions_read :
    Schema.definitionsOfValue (.map mixedEntries) = .ok mixedDefinitions := rfl

theorem mixed_properties_distinct : DistinctProperties mixedDefinitions := by
  rintro node ⟨pair, declared, within⟩
  rw [mixedDefinitions, List.mem_singleton] at declared
  subst declared
  refine Schema.properties_distinct_iff.mpr ⟨by decide, ?_⟩ node within
  intro child listed
  simp only [Schema.children, List.map_cons, List.map_nil, List.mem_cons, List.not_mem_nil,
    or_false] at listed
  rcases listed with rfl | rfl
  · exact Schema.childless_distinct rfl rfl
  · exact Schema.childless_distinct rfl rfl

theorem mixed_names_kept :
    Schema.definitionsOfValue (.map mixedEntries) = .ok mixedDefinitions ∧
      Schema.OneEach Schema.definitionPlace mixedEntries mixedDefinitions ∧
      mixedDefinitions.keys.Nodup ∧ DistinctProperties mixedDefinitions ∧
      ∃ graph notices, graphOf ⟨.promote, 3⟩ mixedDefinitions = .ok (graph, notices) ∧
        ∀ record ∈ graph.records, (record.fields.map (·.dataKey)).Nodup := by
  obtain ⟨whole, -, -, -, records, -⟩ := names_kept_unless_spelled_alike (.map mixedEntries)
  obtain ⟨entries, same, each, -⟩ := whole mixedDefinitions mixed_definitions_read
  cases same
  have distinct : mixedDefinitions.keys.Nodup := by decide
  exact ⟨mixed_definitions_read, each.mpr (by decide), distinct, mixed_properties_distinct,
    records ⟨.promote, 3⟩ mixedDefinitions distinct mixed_properties_distinct⟩

def alikeText : String := "1: a\n\"1\": null\n"

/-- Of two definitions one is left, and of two properties both have one name and are required. -/
theorem spelled_alike_merges :
    (Yaml.read "1: \x7btype: string\x7d\n\"1\": \x7btype: integer\x7d\n").toOption.map (fun value =>
        (value.children.length,
          (Schema.definitionsOfValue value).toOption.map Table.keys)) =
          some (2, some [("1" : Text)]) ∧
      (Yaml.read alikeText).toOption.map (fun value =>
        (Table.keys (Schema.infer value).properties, (Schema.infer value).required)) =
        some ([("1" : Text), "1"], [("1" : Text)]) ∧
      (Yaml.read alikeText).toOption.bind (fun value =>
        (graphOf ⟨.promote, 3⟩ [("Inferred", Schema.infer value)]).toOption.map fun made =>
          made.1.records.map fun record => record.fields.map (·.dataKey)) =
        some [[("1" : Text), "1"]] := by
  decide +kernel

end Resolution

end DtoForge
