import DtoForge.Document.Yaml.Reader
import DtoForge.Proofs.Generation.Plan

/-!
What a run does to the files, seen from its plan. A dry run does nothing and tells what the run
would do. A run that writes and ends puts the source of each unit into a file of its own and changes
nothing else but missing directories on the way. A run that fails while writing leaves what it has
written before, and it leaves the file empty whose source has no bytes, so only a run that fails
earlier is sure to leave no trace. All this is said of files that are reached without links, as
trees have none.
-/

namespace DtoForge.Generation

open Files Files.Tree

variable {platform : Document.Platform} {tree : Tree} {request : Request} {settings : Settings}
  {source : Source} {planned : Plan} {notices : List Notice}

/-! ### Outcomes -/

def Plan.paths (plan : Plan) (workingDirectory : List Text) : List Path :=
  plan.units.map fun unit => .ofAbsoluteParts (unit.file.place workingDirectory plan.directory)

def Plan.files (plan : Plan) : List OutputFile := plan.units.map (·.file)

def Plan.outcome (plan : Plan) (workingDirectory : List Text) (writtenPaths : List Path)
    (dryRun : Bool) : Outcome where
  inputPath := .ofAbsoluteParts (plan.source.path.absoluteParts workingDirectory)
  outputDirectory := .ofAbsoluteParts (plan.directory.absoluteParts workingDirectory)
  policy := plan.policy
  recordNames := plan.recordNames
  fileNames := plan.units.map (·.fileName)
  writtenPaths := writtenPaths
  dryRun := dryRun

theorem outcome_of_fit (whole : Planned platform tree request settings source planned)
    (fit : planned.directory.isUnfit = false) {after : Tree}
    (kept : after.workingDirectory = tree.workingDirectory) (paths : List Path) :
    outcomeOf after request planned paths =
      .ok (planned.outcome tree.workingDirectory paths request.dryRun) := by
  rw [outcomeOf, resolve_of_fit whole.source_fit, resolve_of_fit fit, kept]
  rfl

theorem outcome_of_unfit (whole : Planned platform tree request settings source planned)
    (unfit : planned.directory.isUnfit = true) (paths : List Path) :
    outcomeOf tree request planned paths =
      .error (.path (.unfit planned.directory.unfitStart.unfitFault)) := by
  rw [outcomeOf, resolve_of_fit whole.source_fit, resolve, if_pos unfit]
  rfl

theorem run_without_plan {fault : RunFault}
    (failed : plan platform tree request = (notices, .error fault)) :
    run platform tree request = (tree, notices, .error fault) := by
  rw [run, failed]

theorem run_dry (made : plan platform tree request = (notices, .ok planned))
    (dry : request.dryRun = true) :
    run platform tree request = (tree, notices, outcomeOf tree request planned []) := by
  rw [run, made]
  simp only [dry, if_true]

theorem run_write_failed (made : plan platform tree request = (notices, .ok planned))
    (wet : request.dryRun = false) {after : Tree} {told : List Notice} {cause : WriteFault}
    (failed : writeOutput tree planned.directory planned.files = (after, told, .error cause)) :
    run platform tree request = (after, notices ++ told, .error (.writing cause)) := by
  rw [Plan.files] at failed
  rw [run, made]
  simp only [wet, Bool.false_eq_true, if_false, failed]

theorem run_wrote (made : plan platform tree request = (notices, .ok planned))
    (wet : request.dryRun = false) {after : Tree} {told : List Notice} {paths : List Path}
    (wrote : writeOutput tree planned.directory planned.files = (after, told, .ok paths)) :
    run platform tree request = (after, notices ++ told,
      outcomeOf after request planned paths) := by
  rw [Plan.files] at wrote
  rw [run, made]
  simp only [wet, Bool.false_eq_true, if_false, wrote]

theorem run_wet (made : plan platform tree request = (notices, .ok planned))
    (whole : Planned platform tree request settings source planned)
    (wet : request.dryRun = false) :
    (∃ cause done rest, (run platform tree request).2.2 = .error (.writing cause) ∧
      cause.directory = planned.directory ∧ planned.files = done ++ rest ∧
      Stopped tree (run platform tree request).1 planned.directory cause.fault done rest) ∨
    planned.directory.isUnfit = false ∧
      (run platform tree request).2.2 = .ok (planned.outcome tree.workingDirectory
        (planned.paths tree.workingDirectory) false) ∧
      Wrote tree (run platform tree request).1 planned.directory planned.files := by
  cases written : writeOutput tree planned.directory planned.files with
  | mk after result =>
      obtain ⟨told, result⟩ := result
      cases result with
      | error cause =>
          rw [run_write_failed made wet written]
          obtain ⟨sameDirectory, done, rest, cut, stopped⟩ :=
            (write_output_stopped_iff cause).mp ⟨told, written⟩
          exact .inl ⟨cause, done, rest, rfl, sameDirectory, cut, stopped⟩
      | ok paths =>
          rw [run_wrote made wet written]
          obtain ⟨fit, all, rfl⟩ := write_output_ok written
          refine .inr ⟨fit, ?_, all⟩
          dsimp only
          rw [outcome_of_fit whole fit all.workingDirectory, wet, Plan.files, List.map_map]
          rfl

theorem planned_run_ended {outcome : Outcome}
    (made : plan platform tree request = (notices, .ok planned))
    (ended : (run platform tree request).2.2 = .ok outcome) :
    ∃ settings source, Planned platform tree request settings source planned ∧
      planned.directory.isUnfit = false ∧
      (request.dryRun = true ∧ outcome = planned.outcome tree.workingDirectory [] true ∨
        request.dryRun = false ∧
          Wrote tree (run platform tree request).1 planned.directory planned.files ∧
          outcome =
            planned.outcome tree.workingDirectory (planned.paths tree.workingDirectory) false) := by
  obtain ⟨settings, source, whole⟩ := planned_of_plan made
  refine ⟨settings, source, whole, ?_⟩
  cases flag : request.dryRun with
  | true =>
      rw [run_dry made flag] at ended
      cases unfit : planned.directory.isUnfit with
      | true =>
          rw [outcome_of_unfit whole unfit] at ended
          cases ended
      | false =>
          rw [outcome_of_fit whole unfit rfl, flag] at ended
          cases ended
          exact ⟨rfl, .inl ⟨rfl, rfl⟩⟩
  | false =>
      rcases run_wet made whole flag with ⟨_, _, _, stopped, -⟩ | ⟨fit, finished, wrote⟩
      · rw [stopped] at ended
        cases ended
      · rw [finished] at ended
        cases ended
        exact ⟨fit, .inr ⟨rfl, wrote, rfl⟩⟩

theorem run_ended {outcome : Outcome} (ended : (run platform tree request).2.2 = .ok outcome) :
    ∃ notices planned, plan platform tree request = (notices, .ok planned) := by
  cases made : plan platform tree request with
  | mk notices result =>
      cases result with
      | error fault =>
          rw [run_without_plan made] at ended
          cases ended
      | ok planned => exact ⟨notices, planned, rfl⟩

/-! ### The files of a plan -/

namespace Planned

theorem join_unit (whole : Planned platform tree request settings source planned)
    {unit : Dart.OutputUnit} (listed : unit ∈ planned.units) (directory : Path) :
    directory.join (Path.parse unit.fileName) =
      ⟨directory.anchor, directory.parts ++ [unit.fileName]⟩ := by
  obtain ⟨stem, stemmed⟩ := whole.files_safe.stemmed unit listed
  have shape : unit.fileName = Dart.withFileSuffix stem settings.output.fileSuffix := stemmed.file
  rw [shape]
  exact Dart.join_file_name stemmed.spelled.stem whole.suffix_plain directory

theorem path_of_unit (whole : Planned platform tree request settings source planned)
    {unit : Dart.OutputUnit} (listed : unit ∈ planned.units) (workingDirectory : List Text) :
    Path.ofAbsoluteParts (unit.file.place workingDirectory planned.directory) =
      (Path.ofAbsoluteParts (planned.directory.absoluteParts workingDirectory)).join
        (Path.parse unit.fileName) := by
  rw [whole.join_unit listed, whole.place_of_unit listed]
  rfl

theorem paths_eq (whole : Planned platform tree request settings source planned)
    (workingDirectory : List Text) :
    planned.paths workingDirectory = planned.units.map fun unit =>
      (Path.ofAbsoluteParts (planned.directory.absoluteParts workingDirectory)).join
        (Path.parse unit.fileName) :=
  List.map_congr_left fun _ listed => whole.path_of_unit listed workingDirectory

theorem places_distinct (whole : Planned platform tree request settings source planned)
    (workingDirectory : List Text) :
    ((placed workingDirectory planned.directory planned.files).map (·.1)).Nodup := by
  rw [placed, Plan.files, List.map_map, List.map_map]
  apply List.Nodup.map_on
  · intro left leftListed right rightListed same
    dsimp only [Function.comp] at same
    rw [whole.place_of_unit leftListed, whole.place_of_unit rightListed] at same
    have names := List.append_cancel_left same
    exact List.inj_on_of_nodup_map whole.file_names_distinct leftListed rightListed
      (List.singleton_injective names)
  · exact whole.file_names_distinct.of_map _

end Planned

/-! ### Failing runs -/

theorem remnant_places (workingDirectory : List Text) (directory : Path) (fault : Files.Fault)
    (rest : List OutputFile) :
    ((placed workingDirectory directory (remnants fault rest)).map (·.1)).Sublist
      ((placed workingDirectory directory rest).map (·.1)) := by
  cases rest with
  | nil => exact .refl _
  | cons next later =>
      cases fault with
      | unencodable fault => exact (List.nil_sublist _).cons_cons _
      | refused cause path => exact List.nil_sublist _
      | unfit fault => exact List.nil_sublist _

theorem Planned.residue_places_distinct
    (whole : Planned platform tree request settings source planned) (fault : Files.Fault)
    {done rest : List OutputFile} (cut : planned.files = done ++ rest)
    (workingDirectory : List Text) :
    ((placed workingDirectory planned.directory (done ++ remnants fault rest)).map
      (·.1)).Nodup := by
  have all := whole.places_distinct workingDirectory
  rw [cut, placed, List.map_append, List.map_append] at all
  rw [placed, List.map_append, List.map_append]
  exact all.sublist ((List.Sublist.refl _).append (remnant_places _ _ _ _))

theorem dry_run_not_writing (made : plan platform tree request = (notices, .ok planned))
    (whole : Planned platform tree request settings source planned)
    (dry : request.dryRun = true) (cause : WriteFault) :
    (run platform tree request).2.2 ≠ .error (.writing cause) := by
  intro failed
  rw [run_dry made dry] at failed
  cases unfit : planned.directory.isUnfit with
  | true =>
      rw [outcome_of_unfit whole unfit] at failed
      cases failed
  | false =>
      rw [outcome_of_fit whole unfit rfl] at failed
      cases failed

/-- What a run leaves that stops while writing: the files before the one that was refused, and that
one emptied if its content has no bytes. It leaves no trace just if nothing was made on the way and
these files were there before as they are now. -/
structure Residue (before after : Tree) (plan : Plan) (cause : WriteFault)
    (done rest : List OutputFile) : Prop where
  directory : cause.directory = plan.directory
  files : plan.files = done ++ rest
  stopped : Stopped before after plan.directory cause.fault done rest
  wrote : Wrote before after plan.directory (done ++ remnants cause.fault rest)
  unchanged : (∀ place, after.node? place = before.node? place) ↔
    (∀ place, plan.directory.LeadsThrough before.workingDirectory place →
      after.node? place = before.node? place) ∧
    ∀ file ∈ done ++ remnants cause.fault rest,
      before.Holds (file.place before.workingDirectory plan.directory) file.content

/-- Whatever a failed run leaves is what it wrote before it was refused, with the refused file empty
where that one has no bytes; a run that fails before it writes leaves nothing. The files are reached
without links. -/
theorem failed_run_traces {fault : RunFault}
    (failed : (run platform tree request).2.2 = .error fault) :
    ((∀ cause, fault ≠ .writing cause) ∧ (run platform tree request).1 = tree) ∨
    ∃ cause notices plan done rest, fault = .writing cause ∧ request.dryRun = false ∧
      Generation.plan platform tree request = (notices, .ok plan) ∧
      Residue tree (run platform tree request).1 plan cause done rest := by
  cases made : plan platform tree request with
  | mk notices result =>
      cases result with
      | error other =>
          have before_writing := plan_refused made
          rw [run_without_plan made] at failed ⊢
          cases failed
          exact .inl ⟨before_writing, rfl⟩
      | ok planned =>
          obtain ⟨settings, source, whole⟩ := planned_of_plan made
          cases flag : request.dryRun with
          | true =>
              refine .inl ⟨?_, congrArg Prod.fst (run_dry made flag)⟩
              rintro cause rfl
              exact dry_run_not_writing made whole flag cause failed
          | false =>
              rcases run_wet made whole flag with
                ⟨cause, done, rest, failure, directory, cut, stopped⟩ | ⟨-, ended, -⟩
              · rw [failure] at failed
                cases failed
                have distinct := whole.residue_places_distinct cause.fault cut tree.workingDirectory
                exact .inr ⟨cause, notices, planned, done, rest, rfl, rfl, rfl, directory, cut,
                  stopped, stopped.wrote, stopped.wrote.unchanged_iff distinct⟩
              · rw [ended] at failed
                cases failed

def tripFiles : Tree :=
  ⟨[([("trips.json" : Text)], .file (Text.stringBytes
    "\x7b\"definitions\": \x7b\"Place\": \x7b\"type\": \"string\"\x7d, \"Trip\": \x7b\"type\": \"string\"\x7d\x7d\x7d"))],
    []⟩

/-- The file of the second definition cannot be written, because a directory has its name. -/
def blockedTripFiles : Tree :=
  { tripFiles with nodes := tripFiles.nodes ++
      [(([("gen" : Text)] : List Text), .directory),
        ([("gen" : Text), "trip_response_dto.dart"], .directory)] }

def blockedCause : WriteFault :=
  ⟨.ofAbsoluteParts ["gen"],
    .refused .isDirectory (.ofAbsoluteParts ["gen", "trip_response_dto.dart"])⟩

theorem blocked_trips_fail :
    (run .standard blockedTripFiles { input := "trips.json" }).2.2 =
      .error (.writing blockedCause) := by
  decide +kernel

theorem failed_run_traces_trips :
    (run .standard blockedTripFiles { input := "trips.json" }).2.2 =
        .error (.writing blockedCause) ∧
      ∃ notices plan done rest,
        Generation.plan .standard blockedTripFiles { input := "trips.json" } =
          (notices, .ok plan) ∧
        Residue blockedTripFiles (run .standard blockedTripFiles { input := "trips.json" }).1 plan
          blockedCause done rest := by
  refine ⟨blocked_trips_fail, ?_⟩
  rcases failed_run_traces blocked_trips_fail with
    ⟨earlier, -⟩ | ⟨_, notices, plan, done, rest, same, -, made, residue⟩
  · exact absurd rfl (earlier blockedCause)
  · cases same
    exact ⟨notices, plan, done, rest, made, residue⟩

/-- The run fails, and the file of the first definition is there as it was not before. -/
theorem failed_run_leaves_file :
    (run .standard blockedTripFiles { input := "trips.json" }).2.2 =
        .error (.writing blockedCause) ∧
      blockedTripFiles.node? ["gen", "place_response_dto.dart"] = none ∧
      (run .standard blockedTripFiles { input := "trips.json" }).1.node?
        ["gen", "place_response_dto.dart"] ≠ none :=
  ⟨blocked_trips_fail, by decide +kernel⟩

def halfPairFiles : Tree :=
  ⟨[([("a.json" : Text)], .file (Text.stringBytes "\x7b\"\\ud800\": 1\x7d"))], []⟩

example : (run .standard halfPairFiles { input := "a.json" }).1.node?
    ["gen", "inferred_response_dto.dart"] = some (.file []) := by decide +kernel

/-! ### Dry runs -/

/-- What a run does that ends, in the words of its outcome: each unit has a file of its own in the
output directory, which holds the source of the unit, and nothing else has changed but that missing
directories on the way were made. -/
structure Realized (before after : Tree) (plan : Plan) (outcome : Outcome) : Prop where
  names : outcome.fileNames = plan.units.map (·.fileName)
  directory : outcome.outputDirectory =
    .ofAbsoluteParts (plan.directory.absoluteParts before.workingDirectory)
  paths : outcome.writtenPaths = outcome.fileNames.map fun name =>
    outcome.outputDirectory.join (Path.parse name)
  distinct : outcome.writtenPaths.Nodup
  held : ∀ unit ∈ plan.units,
    after.Holds (outcome.outputDirectory.join (Path.parse unit.fileName)).parts unit.source
  frame : ∀ place, (∀ path ∈ outcome.writtenPaths, path.parts ≠ place) →
    after.node? place = before.node? place ∨
      before.node? place = none ∧ after.node? place = some .directory ∧
        plan.directory.LeadsThrough before.workingDirectory place

theorem paths_of_placed (planned : Plan) (workingDirectory : List Text) :
    planned.paths workingDirectory =
      (placed workingDirectory planned.directory planned.files).map fun pair =>
        Path.ofAbsoluteParts pair.1 := by
  rw [placed, Plan.files, List.map_map, List.map_map]
  rfl

theorem realized_of_wrote (whole : Planned platform tree request settings source planned)
    {after : Tree} (wrote : Wrote tree after planned.directory planned.files) (dryRun : Bool) :
    Realized tree after planned (planned.outcome tree.workingDirectory
      (planned.paths tree.workingDirectory) dryRun) where
  names := rfl
  directory := rfl
  paths := by
    refine (whole.paths_eq tree.workingDirectory).trans ?_
    rw [Plan.outcome, List.map_map]
    rfl
  distinct := by
    have places := whole.places_distinct tree.workingDirectory
    have absolute : Function.Injective Path.ofAbsoluteParts := by
      intro left right same
      exact congrArg Path.parts same
    rw [Plan.outcome, paths_of_placed, ← Function.comp_def Path.ofAbsoluteParts, ← List.map_map]
    exact places.map absolute
  held := by
    intro unit listed
    obtain ⟨made, changed, -⟩ := wrote
    have member : (unit.file.place tree.workingDirectory planned.directory, unit.source) ∈
        placed tree.workingDirectory planned.directory planned.files :=
      List.mem_map_of_mem (List.mem_map_of_mem listed)
    rw [Plan.outcome, ← whole.path_of_unit listed]
    exact changed.holds _ _ (last_text_of_mem (whole.places_distinct _) member)
  frame := by
    intro place elsewhere
    obtain ⟨made, changed, leads⟩ := wrote
    rw [Plan.outcome, paths_of_placed, List.forall_mem_map] at elsewhere
    rcases changed.frame elsewhere with same | ⟨absent, made_, member⟩
    · exact .inl same
    · exact .inr ⟨absent, made_, leads place member⟩

/-- A dry run changes nothing, and it foretells every run that ends. -/
theorem dry_run_foretells (platform : Document.Platform) (tree : Tree) (request : Request) :
    (run platform tree { request with dryRun := true }).1 = tree ∧
      ∀ outcome, (run platform tree { request with dryRun := false }).2.2 = .ok outcome →
        ∃ notices plan, Generation.plan platform tree request = (notices, .ok plan) ∧
          (run platform tree { request with dryRun := true }).2.2 =
            .ok { outcome with writtenPaths := [], dryRun := true } ∧
          Realized tree (run platform tree { request with dryRun := false }).1 plan outcome := by
  -- No part of a plan looks at the flag.
  have same (flag : Bool) :
      plan platform tree { request with dryRun := flag } = plan platform tree request := rfl
  constructor
  · cases made : plan platform tree request with
    | mk notices result =>
        cases result with
        | error fault => rw [run_without_plan ((same true).trans made)]
        | ok planned => rw [run_dry ((same true).trans made) rfl]
  · intro outcome ended
    obtain ⟨notices, planned, made⟩ := run_ended ended
    obtain ⟨settings, source, whole, fit, dry | wet⟩ := planned_run_ended made ended
    · cases dry.1
    · obtain ⟨-, wrote, rfl⟩ := wet
      have madeDry := (same true).trans made
      obtain ⟨_, _, wholeDry⟩ := planned_of_plan madeDry
      refine ⟨notices, planned, made, ?_, realized_of_wrote whole wrote false⟩
      rw [run_dry madeDry rfl]
      exact outcome_of_fit wholeDry fit rfl []

theorem dry_run_foretells_trips :
    ∃ outcome,
      (run .standard tripFiles { input := "trips.json", dryRun := false }).2.2 = .ok outcome ∧
      outcome.fileNames = [("place_response_dto.dart" : Text), "trip_response_dto.dart"] ∧
      (run .standard tripFiles { input := "trips.json", dryRun := true }).1 = tripFiles ∧
      ∃ notices plan,
        Generation.plan .standard tripFiles { input := "trips.json" } = (notices, .ok plan) ∧
        (run .standard tripFiles { input := "trips.json", dryRun := true }).2.2 =
          .ok { outcome with writtenPaths := [], dryRun := true } ∧
        Realized tripFiles (run .standard tripFiles { input := "trips.json", dryRun := false }).1
          plan outcome := by
  have names : (run .standard tripFiles { input := "trips.json" }).2.2.toOption.map (·.fileNames) =
      some [("place_response_dto.dart" : Text), "trip_response_dto.dart"] := by decide +kernel
  have foretells := dry_run_foretells .standard tripFiles { input := "trips.json" }
  dsimp only at foretells
  cases ended : (run .standard tripFiles { input := "trips.json", dryRun := false }).2.2 with
  | error fault => simp [ended, Except.toOption] at names
  | ok outcome =>
      rw [ended] at names
      exact ⟨outcome, rfl, Option.some.inj names, foretells.1, foretells.2 outcome ended⟩

end DtoForge.Generation
