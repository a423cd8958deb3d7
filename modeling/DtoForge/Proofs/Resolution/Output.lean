import DtoForge.Document.Yaml.Reader
import DtoForge.Proofs.Dart.FileNames
import DtoForge.Proofs.Resolution.Closure
import DtoForge.Proofs.Resolution.Forest
import DtoForge.Proofs.Settings.Suffixes

/-!
The files that a run writes. The records of a graph are as the files need them: names are plain and
distinct, every private record has a shared host, and every name in a field has a record. So the
files are complete and keep to their directory, under both policies and with all suffixes that
loading can give.
-/

namespace DtoForge.Resolution

open Registry

variable {context : Context} {definitions : Definitions} {graph : TypeGraph} {registry : Registry}

theorem Finished.shared_host (finished : Finished context definitions graph registry)
    {key name : Text} (looked : registry.lookupReference key = some name) :
    ∃ host ∈ graph.records, host.name = name ∧ host.scope = none := by
  have seeded := seeded_seeds definitions finished.distinct
  rw [lookupReference, finished.coherent.grounded.declared] at looked
  obtain ⟨pair, held, rfl⟩ := seeded.consistent.declaredNamed key name looked
  obtain ⟨host, stored, -, mirrors⟩ := finished.record_of_entry (finished.seeded_entry held)
  exact ⟨host, stored, mirrors.name, mirrors.scope.trans (finished.seeded_unscoped held)⟩

theorem Finished.scope_hosted (finished : Finished context definitions graph registry)
    (plain : NamesPlain registry) {record : Record} (stored : record ∈ graph.records)
    {scope : Text} (within : record.scope = some scope) :
    ∃ host ∈ graph.records, host.name = scope ∧ host.scope = none := by
  obtain ⟨policy, threshold⟩ := context
  cases policy with
  | promote =>
      rw [finished.unscoped rfl record stored] at within
      cases within
  | inline =>
      obtain ⟨place, schema, visible, small, found⟩ :=
        finished.private_of_inline stored (by simp [Record.isInline, within])
      obtain ⟨host, same, looked, reached, hosted, -⟩ :=
        finished.private_record plain visible small
      obtain rfl : record = same := Option.some.inj (found.symm.trans reached)
      obtain rfl : scope = host := Option.some.inj (within.symm.trans hosted)
      exact finished.shared_host looked

theorem Finished.hosted (finished : Finished context definitions graph registry)
    (plain : NamesPlain registry) : Dart.Hosted graph.records where
  namesDistinct := finished.names_distinct
  named := by
    intro record stored
    obtain ⟨pair, held, -, mirrors⟩ := finished.entry_of_record stored
    rw [mirrors.name]
    exact plain pair held
  hosted := fun _ stored _ scope => finished.scope_hosted plain stored scope
  met := by
    intro record stored field member name refers
    have once := finished.references_met record stored field member name refers
    have listed : name ∈ graph.names := List.count_pos_iff.mp (by omega)
    exact List.mem_map.mp listed

theorem resolve_graph_hosted (context : Context) (definitions : Definitions)
    (distinct : definitions.keys.Nodup) :
    ∃ graph registry notices,
      resolveGraph context definitions Registry.empty = .ok (graph, registry, notices) ∧
        Dart.Hosted graph.records := by
  obtain ⟨graph, registry, notices, resolved, finished, plain⟩ :=
    resolve_graph_keeps context definitions distinct NamesPlain (seeds_plain definitions)
      fun _ _ _ _ _ _ settling plain => settling.names_plain plain
  exact ⟨graph, registry, notices, resolved, finished.hosted plain⟩

/-- Definitions with distinct keys resolve under every context, and the files of their graph hold
each record once and import what they need. -/
theorem resolved_units_complete (context : Context) (definitions : Definitions)
    (distinct : definitions.keys.Nodup) {platform : Document.Platform} {tree : Files.Tree}
    {config : Option Text} {settings : Settings}
    (loaded : Settings.load platform tree config = .ok settings) :
    ∃ graph registry notices,
      resolveGraph context definitions Registry.empty = .ok (graph, registry, notices) ∧
        Dart.CompleteUnits settings.output.classSuffix graph.records
          (Dart.outputUnits graph.records settings.output.classSuffix
          settings.output.fileSuffix) := by
  obtain ⟨graph, registry, notices, resolved, hosted⟩ :=
    resolve_graph_hosted context definitions distinct
  have suffixes := Settings.loaded_suffixes_plain loaded
  exact ⟨graph, registry, notices, resolved,
    hosted.complete_units settings.output.classSuffix suffixes.fileSuffix⟩

def shortSuffixes : Files.Tree :=
  ⟨[(["dto.yaml"], .file (Text.stringBytes "output:\n  class_suffix: Dto\n  file_suffix: _dto\n"))],
    []⟩

def shortSettings : Settings :=
  { path := some (Files.Path.parse "/dto.yaml")
    output := { classSuffix := "Dto", fileSuffix := "_dto" } }

theorem short_settings_loaded :
    Settings.load .standard shortSuffixes (some ("/dto.yaml" : Text)) = .ok shortSettings := by
  decide +kernel

theorem trip_units_complete :
    tripSchemas.keys.Nodup ∧
      Settings.load .standard shortSuffixes (some ("/dto.yaml" : Text)) = .ok shortSettings ∧
        ∃ graph registry notices,
          resolveGraph ⟨.inline, 2⟩ tripSchemas Registry.empty = .ok (graph, registry, notices) ∧
            Dart.CompleteUnits "Dto" graph.records (Dart.outputUnits graph.records "Dto" "_dto") :=
  ⟨by decide, short_settings_loaded,
    resolved_units_complete ⟨.inline, 2⟩ tripSchemas (by decide) short_settings_loaded⟩

/-- Whatever the keys and the property names are, the files stay in their directory and never
meet. -/
theorem resolved_files_safe (context : Context) (definitions : Definitions)
    (distinct : definitions.keys.Nodup) {platform : Document.Platform} {tree : Files.Tree}
    {config : Option Text} {settings : Settings}
    (loaded : Settings.load platform tree config = .ok settings) :
    ∃ graph registry notices,
      resolveGraph context definitions Registry.empty = .ok (graph, registry, notices) ∧
        Dart.SafeFiles settings.output.fileSuffix
          (Dart.outputUnits graph.records settings.output.classSuffix
          settings.output.fileSuffix) := by
  obtain ⟨graph, registry, notices, resolved, hosted⟩ :=
    resolve_graph_hosted context definitions distinct
  have suffixes := Settings.loaded_suffixes_plain loaded
  exact ⟨graph, registry, notices, resolved,
    hosted.files_safe settings.output.classSuffix suffixes.fileSuffix⟩

/-- Keys that would leave the directory as they stand; two of them give the same type name. -/
def hostileSchemas : Definitions :=
  [("../Trip", .object [("../../etc", .object [("lat", .primitive .number none)] [])] []),
    ("trip", .object [] []), ("/", .unknown none)]

theorem hostile_files_safe :
    hostileSchemas.keys.Nodup ∧
      Settings.load .standard shortSuffixes (some ("/dto.yaml" : Text)) = .ok shortSettings ∧
        ∃ graph registry notices,
          resolveGraph ⟨.promote, 2⟩ hostileSchemas Registry.empty =
            .ok (graph, registry, notices) ∧
            Dart.SafeFiles "_dto" (Dart.outputUnits graph.records "Dto" "_dto") :=
  ⟨by decide, short_settings_loaded,
    resolved_files_safe ⟨.promote, 2⟩ hostileSchemas (by decide) short_settings_loaded⟩

end DtoForge.Resolution
