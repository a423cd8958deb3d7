import DtoForge.Proofs.Generation.Writing
import DtoForge.Proofs.Resolution.Output

/-!
What a plan comes to. After settings and source are loaded only the threshold can be refused: the
definitions of a source have distinct keys, so they resolve, and the path of a source that was read
is fit for the system. The files of a plan are as safe as those of any graph. Nothing is written
here.
-/

namespace DtoForge

open Files Files.Tree

variable {platform : Document.Platform} {tree : Tree} {request : Request} {settings : Settings}
  {source : Source}

/-! ### Sources -/

theorem existing_path_fit {path : Path} (found : tree.pathExists path = .ok true) :
    path.isUnfit = false := by
  rw [pathExists] at found
  split at found
  · cases found
  · rename_i fit
    simpa using fit

namespace Source

variable {path : Path} {notices : List Notice}

theorem of_value_distinct {document : Document.Value}
    (read : ofValue path document = .ok (source, notices)) :
    source.definitions.keys.Nodup ∧ source.path = path := by
  have single (schema : Schema) : Table.keys [(inferredKey, schema)] = [inferredKey] := rfl
  unfold ofValue at read
  split at read
  case h_1 => cases read
  case h_2 =>
    cases read
    exact ⟨List.nodup_singleton _, rfl⟩
  case h_3 =>
    split at read
    case h_1 =>
      split at read
      · cases read
      · cases read
      · rename_i definitions named given
        cases read
        unfold Schema.definitionsOfValue at given
        split at given
        · obtain ⟨pairs, -, rfl⟩ := map_ok given
          exact ⟨Table.of_list_distinct pairs, rfl⟩
        · cases given
    case h_2 =>
      split at read
      · split at read
        · cases read
          exact ⟨List.nodup_singleton _, rfl⟩
        · cases read
      · cases read
        exact ⟨List.nodup_singleton _, rfl⟩
  all_goals cases read

theorem loaded_facts {input : Text} (loaded : load platform tree input = .ok (source, notices)) :
    source.definitions.keys.Nodup ∧ source.path = Path.parse input ∧
      source.path.isUnfit = false := by
  obtain ⟨found, asked, loaded⟩ := bind_ok loaded
  have there := map_error_ok asked
  cases found with
  | false => cases loaded
  | true =>
      obtain ⟨text, -, loaded⟩ := bind_ok loaded
      obtain ⟨document, -, loaded⟩ := bind_ok loaded
      obtain ⟨distinct, same⟩ := of_value_distinct loaded
      exact ⟨distinct, same, same ▸ existing_path_fit there⟩

end Source

/-! ### Plans -/

namespace Generation

theorem inputs_loaded {loaded : List Notice}
    (read : loadInputs platform tree request = .ok (settings, source, loaded)) :
    Settings.load platform tree request.config = .ok settings ∧
      Source.load platform tree request.input = .ok (source, loaded) := by
  obtain ⟨found, settingsRead, read⟩ := bind_ok read
  obtain ⟨⟨held, noticed⟩, sourceRead, read⟩ := bind_ok read
  cases read
  exact ⟨map_error_ok settingsRead, map_error_ok sourceRead⟩

theorem inputs_refused {fault : RunFault}
    (failed : loadInputs platform tree request = .error fault) :
    (∃ cause, Settings.load platform tree request.config = .error cause ∧
      fault = .settings cause) ∨
    ∃ settings cause, Settings.load platform tree request.config = .ok settings ∧
      Source.load platform tree request.input = .error cause ∧ fault = .source cause := by
  rcases bind_error failed with refused | ⟨settings, read, refused⟩
  · exact .inl (map_error_error refused)
  · rcases bind_error refused with refused | ⟨pair, sourceRead, refused⟩
    · obtain ⟨cause, given, rfl⟩ := map_error_error refused
      exact .inr ⟨settings, cause, map_error_ok read, given, rfl⟩
    · cases refused

/-- The units of a plan are those of some records that are fit for files. -/
structure Planned (platform : Document.Platform) (tree : Tree) (request : Request)
    (settings : Settings) (source : Source) (plan : Plan) : Prop where
  inputsRead : ∃ notices, loadInputs platform tree request = .ok (settings, source, notices)
  sourceKept : plan.source = source
  unitsRendered : ∃ records, Dart.Hosted records ∧ plan.units =
    Dart.outputUnits records settings.output.classSuffix settings.output.fileSuffix

theorem chosen_directory (tree : Tree) (request : Request) (settings : Settings)
    (fit : source.path.isUnfit = false) :
    ∃ directory, chooseDirectory tree request settings source = .ok directory := by
  unfold chooseDirectory
  split
  · exact ⟨_, rfl⟩
  · split
    · exact ⟨_, rfl⟩
    · rw [resolve_of_fit fit]
      exact ⟨_, rfl⟩

theorem plan_cases (platform : Document.Platform) (tree : Tree) (request : Request) :
    (∃ fault, loadInputs platform tree request = .error fault ∧
      plan platform tree request = ([], .error fault)) ∨
    ∃ settings source loaded,
      loadInputs platform tree request = .ok (settings, source, loaded) ∧
      ((∃ fault, plan platform tree request = (loaded, .error (.context fault))) ∨
        ∃ notices planned, plan platform tree request = (notices, .ok planned) ∧
          Planned platform tree request settings source planned) := by
  unfold plan
  cases read : loadInputs platform tree request with
  | error fault => exact .inl ⟨fault, rfl, rfl⟩
  | ok inputs =>
      obtain ⟨settings, source, loaded⟩ := inputs
      refine .inr ⟨settings, source, loaded, rfl, ?_⟩
      obtain ⟨-, sourceRead⟩ := inputs_loaded read
      obtain ⟨distinct, -, fit⟩ := Source.loaded_facts sourceRead
      dsimp only
      cases Resolution.Context.make (choosePolicy request settings source)
          (chooseThreshold request settings) with
      | error fault => exact .inl ⟨fault, rfl⟩
      | ok context =>
          obtain ⟨graph, registry, noticed, resolved, hosted⟩ :=
            Resolution.resolve_graph_hosted context source.definitions distinct
          have whole : Resolution.graphOf context source.definitions = .ok (graph, noticed) := by
            rw [Resolution.graphOf, resolved]
            rfl
          obtain ⟨directory, chosen⟩ := chosen_directory tree request settings fit
          dsimp only
          rw [whole, chosen]
          exact .inr ⟨_, _, rfl, ⟨loaded, read⟩, rfl, graph.records, hosted, rfl⟩

theorem planned_of_plan {notices : List Notice} {planned : Plan}
    (made : plan platform tree request = (notices, .ok planned)) :
    ∃ settings source, Planned platform tree request settings source planned := by
  rcases plan_cases platform tree request with
    ⟨fault, -, failed⟩ | ⟨settings, source, loaded, -, rest⟩
  · rw [failed] at made
    cases made
  · rcases rest with ⟨fault, failed⟩ | ⟨_, other, same, whole⟩
    · rw [failed] at made
      cases made
    · rw [same] at made
      cases made
      exact ⟨settings, source, whole⟩

theorem plan_refused {notices : List Notice} {fault : RunFault}
    (failed : plan platform tree request = (notices, .error fault)) :
    ∀ cause, fault ≠ .writing cause := by
  rintro cause rfl
  rcases plan_cases platform tree request with
    ⟨fault, read, refused⟩ | ⟨_, _, loaded, -, rest⟩
  · rw [refused] at failed
    cases failed
    rcases inputs_refused read with ⟨_, -, same⟩ | ⟨_, _, -, -, same⟩
    · cases same
    · cases same
  · rcases rest with ⟨fault, refused⟩ | ⟨_, _, made, -⟩
    · rw [refused] at failed
      cases failed
    · rw [made] at failed
      cases failed

namespace Planned

variable {planned : Plan}

theorem source_fit (whole : Planned platform tree request settings source planned) :
    planned.source.path.isUnfit = false := by
  obtain ⟨notices, read⟩ := whole.inputsRead
  rw [whole.sourceKept]
  exact (Source.loaded_facts (inputs_loaded read).2).2.2

theorem suffix_plain (whole : Planned platform tree request settings source planned) :
    Naming.IsStem settings.output.fileSuffix.toList := by
  obtain ⟨notices, read⟩ := whole.inputsRead
  exact (Settings.loaded_suffixes_plain (inputs_loaded read).1).fileSuffix

theorem files_safe (whole : Planned platform tree request settings source planned) :
    Dart.SafeFiles settings.output.fileSuffix planned.units := by
  obtain ⟨records, hosted, rendered⟩ := whole.unitsRendered
  rw [rendered]
  exact hosted.files_safe settings.output.classSuffix whole.suffix_plain

theorem place_of_unit (whole : Planned platform tree request settings source planned)
    {unit : Dart.OutputUnit} (listed : unit ∈ planned.units) (workingDirectory : List Text) :
    unit.file.place workingDirectory planned.directory =
      planned.directory.absoluteParts workingDirectory ++ [unit.fileName] :=
  (whole.files_safe.inside unit listed planned.directory).2 workingDirectory

theorem file_names_distinct (whole : Planned platform tree request settings source planned) :
    (planned.units.map (·.fileName)).Nodup :=
  (whole.files_safe.caseDistinct.of_map _).map_on fun _ leftListed _ rightListed same =>
    List.inj_on_of_nodup_map whole.files_safe.caseDistinct leftListed rightListed
      (congrArg Text.lower same)

end Planned

end Generation

end DtoForge
