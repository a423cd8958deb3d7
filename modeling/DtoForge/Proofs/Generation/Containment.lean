import DtoForge.Proofs.Generation.Runs

/-!
Which faults pass through a run. All that the system refuses is reported, and so is all that a
document or a configuration gets wrong against its format; the definitions of a source always
resolve. What passes through is told by the inputs and the files alone: bytes of a configuration
that are no text, texts that their decoding does not reject as offences, directories that the system
cannot be given, and sources that hold a surrogate when they are to be written. The reader of YAML
texts may be any, and so may be what is too much for it. Trees have no links, so nothing is said of
a path that leads through one. The wording of the faults is not treated here.
-/

namespace DtoForge

open Files Files.Tree Document

variable {platform : Platform} {tree before after : Tree} {path : Path}

/-! ### System faults -/

abbrev IsRefused (fault : Files.Fault) : Prop := fault.isRefusal = true

theorem exists_refused {fault : Files.Fault} (failed : tree.pathExists path = .error fault) :
    IsRefused fault := by
  rw [pathExists] at failed
  split at failed
  · cases failed
  · split at failed
    all_goals
      cases failed
      try rfl

theorem readable_exists {bytes : List UInt8} (read : tree.readBytes path = .ok bytes) :
    tree.pathExists path = .ok true := by
  rw [readBytes] at read
  split at read
  · cases read
  · rename_i fit
    rw [pathExists, if_neg fit]
    split at read
    · cases read
    · cases read
    · rename_i found
      rw [found]

theorem read_refused {fault : Files.Fault} (found : tree.pathExists path = .ok true)
    (failed : tree.readBytes path = .error fault) : IsRefused fault := by
  rw [readBytes, existing_path_fit found, if_neg Bool.false_ne_true] at failed
  split at failed
  all_goals
    cases failed
    try rfl

theorem Files.Path.is_unfit_join {base path : Path} (relative : path.isAbsolute = false) :
    (base.join path).isUnfit = (base.isUnfit || path.isUnfit) := by
  rw [Path.join, relative, if_neg Bool.false_ne_true, Path.isUnfit, List.any_append]
  rfl

theorem readable_text {text : String} (read : readText tree path = .ok text) :
    tree.pathExists path = .ok true := by
  obtain ⟨bytes, given, -⟩ := bind_ok read
  exact readable_exists (map_error_ok given)

theorem unreadable_text {fault : ReadFault} (found : tree.pathExists path = .ok true)
    (failed : readText tree path = .error fault) :
    (∃ cause, fault = .file cause ∧ IsRefused cause) ∨
      ∃ bytes cause, fault = .encoding cause ∧ tree.readBytes path = .ok bytes ∧
        Text.decodeFile bytes = .error cause := by
  rcases bind_error failed with refused | ⟨bytes, given, undecoded⟩
  · obtain ⟨cause, unread, rfl⟩ := map_error_error refused
    exact .inl ⟨cause, rfl, read_refused found unread⟩
  · obtain ⟨cause, broken, rfl⟩ := map_error_error undecoded
    exact .inr ⟨bytes, cause, rfl, map_error_ok given, broken⟩

/-! ### Decoding -/

/-- What a text does to its decoding that is no offence against the format: it is too much to be
handled, holds a numeral in JSON that is too long, or makes the reader of YAML raise something. -/
inductive Foreign (platform : Platform) (text : String) (role : Role) : DecodeFault → Prop
  | exhausting (exhausts : platform.exhausts role text = true) :
      Foreign platform text role .exhausted
  | digits (count : Nat) (handled : platform.exhausts role text = false)
      (format : role.format = .json) (long : Json.decode text = .error (.digits count)) :
      Foreign platform text role (.json (.digits count))
  | raised (kind message : Text) (handled : platform.exhausts role text = false)
      (format : role.format = .yaml)
      (raised : platform.readYaml text = .error (.raised kind message)) :
      Foreign platform text role (.yaml (.raised kind message))

theorem foreign_iff {text : String} {role : Role} {fault : DecodeFault} :
    Foreign platform text role fault ↔
      decode platform role text = .error fault ∧ fault.isOffence = false := by
  constructor
  · intro foreign
    unfold decode
    cases foreign with
    | exhausting exhausts =>
        rw [if_pos exhausts]
        exact ⟨rfl, rfl⟩
    | digits count handled format long =>
        rw [handled, if_neg Bool.false_ne_true, format, long]
        exact ⟨rfl, rfl⟩
    | raised kind message handled format raised =>
        rw [handled, if_neg Bool.false_ne_true, format, raised]
        exact ⟨rfl, rfl⟩
  · rintro ⟨failed, noOffence⟩
    unfold decode at failed
    split at failed
    · rename_i exhausts
      cases failed
      exact .exhausting exhausts
    · rename_i handled
      rw [Bool.not_eq_true] at handled
      cases format : role.format with
      | json =>
          rw [format] at failed
          obtain ⟨cause, rejected, rfl⟩ := map_error_error failed
          cases cause with
          | offence cause line column offset => cases noOffence
          | digits count => exact .digits count handled format rejected
      | yaml =>
          rw [format] at failed
          obtain ⟨cause, rejected, rfl⟩ := map_error_error failed
          cases cause with
          | offence message => cases noOffence
          | raised kind message => exact .raised kind message handled format rejected

/-! ### Configurations -/

namespace Settings

variable {α : Type} {entries root : Entries} {name key : Text} {value : Value}
  {fault : SettingsFault}

abbrev IsOffence (fault : SettingsFault) : Prop := fault.isConfiguration = true

theorem reported_of_offence (offence : IsOffence fault) :
    (RunFault.settings fault).isReported = true := by
  cases fault with
  | inaccessible cause => cases offence
  | unreadable cause => cases offence
  | unresolvable cause => cases offence
  | notFound path => rfl
  | undecodable cause => exact offence
  | noMapping => rfl
  | noSection name => rfl
  | setting name problem => rfl

theorem section_offence (failed : sectionOf root name = .error fault) : IsOffence fault := by
  unfold sectionOf at failed
  split at failed
  all_goals
    cases failed
    try rfl

theorem setting_offence {default : α} {read : Value → Except SettingsFault α}
    (offends : ∀ value fault, read value = .error fault → IsOffence fault)
    (failed : settingOr entries key default read = .error fault) : IsOffence fault := by
  unfold settingOr at failed
  split at failed
  · cases failed
  · exact offends _ _ failed

theorem policy_offence (name : Text) (value : Value) (fault : SettingsFault)
    (failed : policyOf name value = .error fault) : IsOffence fault := by
  unfold policyOf at failed
  split at failed
  · cases failed
  · dsimp only at failed
    split at failed
    · cases failed
      rfl
    · split at failed
      · cases failed
      · split at failed
        · cases failed
        · cases failed
          rfl
  · cases failed
    rfl

theorem threshold_offence (name : Text) (value : Value) (fault : SettingsFault)
    (failed : thresholdOf name value = .error fault) : IsOffence fault := by
  unfold thresholdOf at failed
  split at failed
  · split at failed
    · cases failed
      rfl
    · cases failed
  · cases failed
    rfl

theorem identifier_offence (name : Text) (value : Value) (fault : SettingsFault)
    (failed : identifierPartOf name value = .error fault) : IsOffence fault := by
  unfold identifierPartOf at failed
  split at failed
  · cases failed
  · dsimp only at failed
    split at failed
    · cases failed
    · cases failed
      rfl
  · cases failed
    rfl

theorem text_offence (name : Text) (value : Value) (fault : SettingsFault)
    (failed : optionalTextOf name value = .error fault) : IsOffence fault := by
  unfold optionalTextOf at failed
  split at failed
  · cases failed
  · cases failed
  · cases failed
    rfl

theorem resolution_offence (failed : resolutionOf root = .error fault) : IsOffence fault := by
  rcases bind_error failed with refused | ⟨entries, -, failed⟩
  · exact section_offence refused
  rcases bind_error failed with refused | ⟨policy, -, failed⟩
  · exact setting_offence (policy_offence _) refused
  rcases bind_error failed with refused | ⟨threshold, -, failed⟩
  · exact setting_offence (threshold_offence _) refused
  · cases failed

/-- The output section names a relative directory that the system cannot be given. -/
def UnfitDirectory (root : Entries) : Prop :=
  ∃ entries given, sectionOf root "output" = .ok entries ∧
    settingOr entries "directory" none (optionalTextOf "output.directory") = .ok (some given) ∧
      (Path.parse given).isAbsolute = false ∧ (Path.parse given).isUnfit = true

theorem directory_fault {base : Path} {given : Text} (fit : base.isUnfit = false)
    (failed : directoryOf tree base given = .error fault) :
    (∃ cause, fault = .unresolvable (.unfit cause)) ∧ (Path.parse given).isAbsolute = false ∧
      (Path.parse given).isUnfit = true := by
  unfold directoryOf at failed
  dsimp only at failed
  split at failed
  · cases failed
  · rename_i relative
    rw [Bool.not_eq_true] at relative
    obtain ⟨cause, refused, rfl⟩ := map_error_error failed
    rw [resolve] at refused
    split at refused
    · rename_i unfit
      cases refused
      rw [Path.is_unfit_join relative, fit, Bool.false_or] at unfit
      exact ⟨⟨_, rfl⟩, relative, unfit⟩
    · cases refused

theorem output_fault {base : Path} (fit : base.isUnfit = false)
    (failed : outputOf tree base root = .error fault) : IsOffence fault ∨ UnfitDirectory root := by
  rcases bind_error failed with refused | ⟨entries, named, failed⟩
  · exact .inl (section_offence refused)
  rcases bind_error failed with refused | ⟨given, read, failed⟩
  · exact .inl (setting_offence (text_offence _) refused)
  rcases bind_error failed with refused | ⟨directory, -, failed⟩
  · cases given with
    | none => cases refused
    | some given =>
        cases found : directoryOf tree base given with
        | ok directory =>
            rw [Option.mapM_some, found] at refused
            cases refused
        | error cause =>
            rw [Option.mapM_some, found] at refused
            cases refused
            obtain ⟨-, relative, unfit⟩ := directory_fault fit found
            exact .inr ⟨entries, given, named, read, relative, unfit⟩
  rcases bind_error failed with refused | ⟨classSuffix, -, failed⟩
  · exact .inl (setting_offence (identifier_offence _) refused)
  rcases bind_error failed with refused | ⟨fileSuffix, -, failed⟩
  · exact .inl (setting_offence (identifier_offence _) refused)
  · cases failed

theorem output_of_unfit_directory (tree : Tree) (base : Path) (unfit : UnfitDirectory root) :
    ∃ cause, outputOf tree base root = .error (.unresolvable (.unfit cause)) := by
  obtain ⟨entries, given, named, read, relative, unfit⟩ := unfit
  have unresolved : directoryOf tree base given = .error (.unresolvable (.unfit
      (base.join (Path.parse given)).unfitStart.unfitFault)) := by
    unfold directoryOf
    dsimp only
    rw [relative, if_neg Bool.false_ne_true, resolve, Path.is_unfit_join relative, unfit,
      Bool.or_true, if_pos rfl]
    rfl
  refine ⟨(base.join (Path.parse given)).unfitStart.unfitFault, ?_⟩
  rw [outputOf, named, ok_bind, read, ok_bind, Option.mapM_some, unresolved]
  rfl

/-- What in a configuration passes through a run: bytes that are no text, a text that fails its
decoding without an offence, a relative directory that the system cannot be given. -/
inductive Escape (platform : Platform) (tree : Tree) (given : Text) : Prop
  | bytes (bytes : List UInt8) (fault : Text.Utf8Fault)
      (held : tree.readBytes (Path.parse given) = .ok bytes)
      (undecodable : Text.decodeFile bytes = .error fault)
  | value (text : String) (fault : DecodeFault)
      (held : readText tree (Path.parse given) = .ok text)
      (foreign : Foreign platform text .configuration fault)
  | directory (text : String) (root : Entries) (settings : ResolutionSettings)
      (held : readText tree (Path.parse given) = .ok text)
      (decoded : decode platform .configuration text = .ok (.map root))
      (resolution : resolutionOf root = .ok settings) (unfit : UnfitDirectory root)

theorem load_of_text {given : Text} {text : String}
    (held : readText tree (Path.parse given) = .ok text) :
    load platform tree (some given) =
      ((decode platform .configuration text).mapError SettingsFault.undecodable >>=
        ofValue tree (Path.parse given)) := by
  unfold load
  dsimp only
  rw [readable_text held, held]
  rfl

theorem value_fault {path : Path} (fit : path.isUnfit = false)
    (failed : ofValue tree path value = .error fault) :
    IsOffence fault ∨
      ∃ root settings, value = .map root ∧ resolutionOf root = .ok settings ∧
        UnfitDirectory root := by
  have above : path.parent.isUnfit = false := by
    rw [Path.isUnfit, List.any_eq_false] at fit ⊢
    exact fun part member => fit part (List.dropLast_subset _ member)
  unfold ofValue at failed
  split at failed
  · cases failed
  · rename_i root
    rcases bind_error failed with refused | ⟨settings, resolution, failed⟩
    · exact .inl (resolution_offence refused)
    rcases bind_error failed with refused | ⟨output, -, failed⟩
    · rcases output_fault above refused with offence | unfit
      · exact .inl offence
      · exact .inr ⟨root, settings, rfl, resolution, unfit⟩
    · cases failed
  · cases failed
    exact .inl rfl

theorem load_unreported_iff (platform : Platform) (tree : Tree) (config : Option Text) :
    (∃ fault, load platform tree config = .error fault ∧
      (RunFault.settings fault).isReported = false) ↔
      ∃ given, config = some given ∧ Escape platform tree given := by
  constructor
  · rintro ⟨fault, failed, unreported⟩
    cases config with
    | none => cases failed
    | some given =>
        refine ⟨given, rfl, ?_⟩
        rcases bind_error failed with refused | ⟨found, asked, failed⟩
        · obtain ⟨cause, missing, rfl⟩ := map_error_error refused
          cases unreported.symm.trans (exists_refused missing)
        have there := map_error_ok asked
        cases found with
        | false =>
            cases failed
            cases unreported
        | true =>
            have fit := existing_path_fit there
            rcases bind_error failed with refused | ⟨text, read, failed⟩
            · obtain ⟨cause, unread, rfl⟩ := map_error_error refused
              rcases unreadable_text there unread with
                ⟨cause, rfl, refusal⟩ | ⟨bytes, cause, rfl, held, undecodable⟩
              · cases unreported.symm.trans refusal
              · exact .bytes bytes cause held undecodable
            have held := map_error_ok read
            rcases bind_error failed with refused | ⟨value, decoded, failed⟩
            · obtain ⟨cause, rejected, rfl⟩ := map_error_error refused
              exact .value text cause held (foreign_iff.mpr ⟨rejected, unreported⟩)
            · rcases value_fault fit failed with offence | ⟨root, settings, rfl, resolution, unfit⟩
              · cases unreported.symm.trans (reported_of_offence offence)
              · exact .directory text root settings held (map_error_ok decoded) resolution unfit
  · rintro ⟨given, rfl, escape⟩
    cases escape with
    | bytes bytes fault held undecodable =>
        refine ⟨.unreadable (.encoding fault), ?_, rfl⟩
        unfold load
        dsimp only
        rw [readable_exists held, readText, held]
        simp only [Except.mapError, Bool.not_true, Bool.false_eq_true, if_false, ok_bind,
          undecodable]
        rfl
    | value text fault held foreign =>
        obtain ⟨rejected, noOffence⟩ := foreign_iff.mp foreign
        refine ⟨.undecodable fault, ?_, noOffence⟩
        rw [load_of_text held, rejected]
        rfl
    | directory text root settings held decoded resolution unfit =>
        obtain ⟨cause, failed⟩ :=
          output_of_unfit_directory tree (Path.parse given).parent unfit
        refine ⟨.unresolvable (.unfit cause), ?_, rfl⟩
        rw [load_of_text held, decoded]
        change (resolutionOf root >>= fun resolution =>
          outputOf tree (Path.parse given).parent root >>= fun output => _) = _
        rw [resolution, ok_bind, failed]
        rfl

end Settings

/-! ### Sources -/

namespace Source

variable {document : Value} {input : Text} {fault : SourceFault}

theorem value_reported (failed : ofValue path document = .error fault) :
    (RunFault.source fault).isReported = true := by
  unfold ofValue at failed
  split at failed
  · cases failed
    rfl
  · cases failed
  · split at failed
    · split at failed
      · cases failed
        rfl
      · cases failed
        rfl
      · cases failed
    · split at failed
      · split at failed
        · cases failed
        · cases failed
          rfl
      · cases failed
  all_goals
    cases failed
    rfl

/-- What in a document passes through a run: a text that fails its decoding without an offence. -/
structure Escape (platform : Platform) (tree : Tree) (input : Text) (text : String)
    (fault : DecodeFault) : Prop where
  held : readText tree (Path.parse input) = .ok text
  foreign : Foreign platform text (.document (formatOf (Path.parse input))) fault

theorem load_of_text {text : String} (held : readText tree (Path.parse input) = .ok text) :
    load platform tree input =
      ((decode platform (.document (formatOf (Path.parse input))) text).mapError
          SourceFault.undecodable >>= ofValue (Path.parse input)) := by
  unfold load
  dsimp only
  rw [readable_text held, held]
  simp only [Except.mapError, ok_bind, Bool.not_true, Bool.false_eq_true, if_false]

theorem load_unreported_iff (platform : Platform) (tree : Tree) (input : Text) :
    (∃ fault, load platform tree input = .error fault ∧
      (RunFault.source fault).isReported = false) ↔
      ∃ text cause, Escape platform tree input text cause := by
  constructor
  · rintro ⟨fault, failed, unreported⟩
    rcases bind_error failed with refused | ⟨found, asked, failed⟩
    · obtain ⟨cause, missing, rfl⟩ := map_error_error refused
      cases unreported.symm.trans (exists_refused missing)
    cases found with
    | false =>
        cases failed
        cases unreported
    | true =>
        rcases bind_error failed with refused | ⟨text, read, failed⟩
        · obtain ⟨cause, -, rfl⟩ := map_error_error refused
          cases unreported
        rcases bind_error failed with refused | ⟨document, -, failed⟩
        · obtain ⟨cause, rejected, rfl⟩ := map_error_error refused
          exact ⟨text, cause, map_error_ok read, foreign_iff.mpr ⟨rejected, unreported⟩⟩
        · cases unreported.symm.trans (value_reported failed)
  · rintro ⟨text, cause, held, foreign⟩
    obtain ⟨rejected, noOffence⟩ := foreign_iff.mp foreign
    refine ⟨.undecodable cause, ?_, noOffence⟩
    rw [load_of_text held, rejected]
    rfl

end Source

/-! ### Writing -/

/-- Writing comes to a file that holds a surrogate: the files before it are written, and its path
takes a file. -/
inductive MeetsSurrogate (tree : Tree) (directory : Path) (files : List OutputFile) : Prop
  | next (done : List OutputFile) (next : OutputFile) (later : List OutputFile) (middle : Tree)
      (notices : List Notice) (paths : List Path) (offset : Fin 0x800)
      (cut : files = done ++ next :: later)
      (wrote : writeOutput tree directory done = (middle, notices, .ok paths))
      (takes : middle.Takes (next.path directory))
      (held : .surrogate offset ∈ next.content.toList)

theorem write_text_unrefused_iff (before : Tree) (path : Path) (text : Text) :
    (∃ after fault, before.writeText path text = (after, .error fault) ∧ fault.isRefusal = false) ↔
      path.isUnfit = true ∨ before.Takes path ∧ ∃ offset, .surrogate offset ∈ text.toList := by
  rw [← Text.encode_error_iff]
  have attempt := write_text_attempt before path text
  cases wrote : before.writeText path text with
  | mk middle result =>
      rw [wrote] at attempt
      cases attempt with
      | barred fault bar own =>
          rw [or_iff_left fun taken => bar taken.1, ← Bool.not_eq_false', ← own.refusal]
          constructor
          · rintro ⟨_, _, same, unrefused⟩
            cases same
            simp [unrefused]
          · intro unrefused
            exact ⟨_, _, rfl, by simpa using unrefused⟩
      | emptied _ fault takes unencodable changed =>
          exact iff_of_true ⟨_, _, rfl, rfl⟩ (.inr ⟨takes, fault, unencodable⟩)
      | written _ takes changed =>
          obtain ⟨bytes, encoded, -⟩ :=
            changed.holds _ _ (last_text_of_mem (List.nodup_singleton _) List.mem_cons_self)
          refine iff_of_false (fun ⟨_, _, same, _⟩ => nomatch same) ?_
          rintro (unfit | ⟨-, fault, unencodable⟩)
          · cases takes.1.symm.trans unfit
          · cases encoded.symm.trans unencodable

/-! ### Runs -/

namespace Generation

variable {request : Request} {settings : Settings} {source : Source} {planned : Plan}
  {notices : List Notice}

/-- What passes through a run. The configuration is read before the document, the directory is asked
for when all is rendered, and only a run that is not dry comes to writing. -/
inductive Escape (platform : Platform) (tree : Tree) (request : Request) : Prop
  | configuration (given : Text) (named : request.config = some given)
      (escape : Settings.Escape platform tree given)
  | document (settings : Settings) (text : String) (fault : DecodeFault)
      (loaded : Settings.load platform tree request.config = .ok settings)
      (escape : Source.Escape platform tree request.input text fault)
  | directory (notices : List Notice) (plan : Plan)
      (made : Generation.plan platform tree request = (notices, .ok plan))
      (unfit : plan.directory.isUnfit = true)
  | writing (notices : List Notice) (plan : Plan)
      (made : Generation.plan platform tree request = (notices, .ok plan))
      (wet : request.dryRun = false) (meets : MeetsSurrogate tree plan.directory plan.files)

/-- The result is a fault that the run does not report as its own. -/
def Passes (result : Except RunFault Outcome) : Prop :=
  ∃ fault, result = .error fault ∧ fault.isReported = false

theorem ended_not_passes (outcome : Outcome) : ¬ Passes (.ok outcome) := by
  rintro ⟨fault, impossible, -⟩
  cases impossible

theorem inputs_pass_iff (platform : Platform) (tree : Tree) (request : Request) :
    (∃ fault, loadInputs platform tree request = .error fault ∧ fault.isReported = false) ↔
      (∃ given, request.config = some given ∧ Settings.Escape platform tree given) ∨
      ∃ settings text fault, Settings.load platform tree request.config = .ok settings ∧
        Source.Escape platform tree request.input text fault := by
  rw [← Settings.load_unreported_iff]
  constructor
  · rintro ⟨fault, failed, unreported⟩
    rcases inputs_refused failed with
      ⟨cause, refused, rfl⟩ | ⟨settings, cause, loaded, refused, rfl⟩
    · exact .inl ⟨cause, refused, unreported⟩
    · obtain ⟨text, fault, escape⟩ :=
        (Source.load_unreported_iff platform tree request.input).mp ⟨cause, refused, unreported⟩
      exact .inr ⟨settings, text, fault, loaded, escape⟩
  · rintro (⟨cause, refused, unreported⟩ | ⟨settings, text, fault, loaded, escape⟩)
    · refine ⟨.settings cause, ?_, unreported⟩
      rw [loadInputs, refused]
      rfl
    · obtain ⟨cause, refused, unreported⟩ :=
        (Source.load_unreported_iff platform tree request.input).mpr ⟨text, fault, escape⟩
      refine ⟨.source cause, ?_, unreported⟩
      rw [loadInputs, loaded, refused]
      rfl

theorem file_name_fit {stem suffix : Text} (stemmed : Naming.IsStem stem.toList)
    (plain : Naming.IsStem suffix.toList) :
    Path.isUnfitPart (Dart.withFileSuffix stem suffix) = false := by
  have word : ∀ chars, Naming.IsStem chars → ∀ c ∈ chars,
      ¬(c = CodePoint.char '\x00' || !Path.hasBytes c) = true := fun chars stemmed c held =>
    Naming.ascii_forall
      (fun c => Naming.isWordChar c = true ∨ c = .char '_' →
        ¬(c = CodePoint.char '\x00' || !Path.hasBytes c) = true)
      (by decide) (Dart.stem_ascii stemmed c held) (stemmed c held)
  have ending : ∀ c ∈ (".dart" : Text).toList,
      ¬(c = CodePoint.char '\x00' || !Path.hasBytes c) = true := by decide
  rw [Path.isUnfitPart, List.any_eq_false, Dart.file_chars]
  intro c held
  rcases List.mem_append.mp held with name | last
  · rcases List.mem_append.mp name with name | name
    · exact word _ stemmed c name
    · exact word _ plain c name
  · exact ending c last

/-- A file of a plan has an unfit path just if the directory is unfit, for its name is plain. -/
theorem Planned.file_unfit (whole : Planned platform tree request settings source planned)
    {file : OutputFile} (held : file ∈ planned.files) :
    (file.path planned.directory).isUnfit = planned.directory.isUnfit := by
  obtain ⟨unit, listed, rfl⟩ := List.mem_map.mp held
  obtain ⟨stem, stemmed⟩ := whole.files_safe.stemmed unit listed
  have shape : unit.fileName = Dart.withFileSuffix stem settings.output.fileSuffix := stemmed.file
  have fit := file_name_fit stemmed.spelled.stem whole.suffix_plain
  rw [← shape] at fit
  rw [OutputFile.path, Dart.OutputUnit.file, whole.join_unit listed, Path.isUnfit, List.any_append,
    List.any_cons, List.any_nil, fit, Bool.or_false, Bool.or_false]
  rfl

theorem Planned.write_unrefused_iff
    (whole : Planned platform tree request settings source planned) :
    (∃ after told cause,
      writeOutput tree planned.directory planned.files = (after, told, .error cause) ∧
        cause.fault.isRefusal = false) ↔
      planned.directory.isUnfit = true ∨
        MeetsSurrogate tree planned.directory planned.files := by
  constructor
  · rintro ⟨after, told, cause, failed, unrefused⟩
    obtain ⟨-, done, rest, cut, stopped⟩ := (write_output_stopped_iff cause).mp ⟨told, failed⟩
    cases stopped with
    | directory _ refused =>
        rcases make_directories_ends refused with ⟨impossible, -⟩ | ⟨_, same, own⟩
        · cases impossible
        · cases same
          rw [own.refusal, Bool.not_eq_false'] at unrefused
          exact .inl unrefused
    | file middle notices paths _ next later wrote refused =>
        have listed : next ∈ planned.files := by
          rw [cut]
          exact List.mem_append_right done List.mem_cons_self
        rcases (write_text_unrefused_iff _ _ _).mp ⟨after, _, refused, unrefused⟩ with
          unfit | ⟨takes, offset, held⟩
        · rw [whole.file_unfit listed] at unfit
          exact .inl unfit
        · exact .inr (.next done next later middle notices paths offset cut wrote takes held)
  · rintro (unfit | ⟨done, next, later, middle, notices, paths, offset, cut, wrote, takes, held⟩)
    · rcases write_output_cases tree planned.directory planned.files with
        ⟨after, fault, -, own, -, failed⟩ | ⟨_, -, fit, -⟩
      · refine ⟨after, [], _, failed, ?_⟩
        rw [own.refusal, unfit]
        rfl
      · cases fit.symm.trans unfit
    · obtain ⟨after, fault, refused, unrefused⟩ :=
        (write_text_unrefused_iff _ _ _).mpr (.inr ⟨takes, offset, held⟩)
      obtain ⟨told, failed⟩ := (write_output_stopped_iff ⟨planned.directory, fault⟩).mpr
        ⟨rfl, done, next :: later, cut, .file middle notices paths done next later wrote refused⟩
      exact ⟨after, told, _, failed, unrefused⟩

theorem planned_run_passes_iff (made : plan platform tree request = (notices, .ok planned))
    (whole : Planned platform tree request settings source planned) :
    Passes (run platform tree request).2.2 ↔ planned.directory.isUnfit = true ∨
      request.dryRun = false ∧ MeetsSurrogate tree planned.directory planned.files := by
  cases flag : request.dryRun with
  | true =>
      rw [or_iff_left fun wet => Bool.noConfusion wet.1, run_dry made flag]
      cases unfit : planned.directory.isUnfit with
      | true =>
          rw [outcome_of_unfit whole unfit]
          exact iff_of_true ⟨_, rfl, rfl⟩ rfl
      | false =>
          rw [outcome_of_fit whole unfit rfl]
          exact iff_of_false (ended_not_passes _) Bool.false_ne_true
  | false =>
      rw [and_iff_right rfl, ← whole.write_unrefused_iff]
      cases written : writeOutput tree planned.directory planned.files with
      | mk after result =>
          obtain ⟨told, result⟩ := result
          cases result with
          | error cause =>
              rw [run_write_failed made flag written]
              constructor
              · rintro ⟨_, same, unreported⟩
                cases same
                exact ⟨_, _, cause, rfl, unreported⟩
              · rintro ⟨_, _, _, same, unrefused⟩
                cases same
                exact ⟨_, rfl, unrefused⟩
          | ok paths =>
              obtain ⟨fit, all, -⟩ := write_output_ok written
              rw [run_wrote made flag written, outcome_of_fit whole fit all.workingDirectory]
              refine iff_of_false (ended_not_passes _) ?_
              rintro ⟨_, _, _, same, -⟩
              cases same

theorem escape_iff (platform : Platform) (tree : Tree) (request : Request) :
    Escape platform tree request ↔
    (∃ fault, loadInputs platform tree request = .error fault ∧ fault.isReported = false) ∨
      ∃ notices planned, plan platform tree request = (notices, .ok planned) ∧
        (planned.directory.isUnfit = true ∨
          request.dryRun = false ∧ MeetsSurrogate tree planned.directory planned.files) := by
  rw [inputs_pass_iff]
  constructor
  · intro escape
    cases escape with
    | configuration given named escape => exact .inl (.inl ⟨given, named, escape⟩)
    | document settings text fault loaded escape =>
        exact .inl (.inr ⟨settings, text, fault, loaded, escape⟩)
    | directory notices planned made unfit => exact .inr ⟨notices, planned, made, .inl unfit⟩
    | writing notices planned made wet meets =>
        exact .inr ⟨notices, planned, made, .inr ⟨wet, meets⟩⟩
  · rintro ((⟨given, named, escape⟩ | ⟨settings, text, fault, loaded, escape⟩) |
      ⟨notices, planned, made, unfit | ⟨wet, meets⟩⟩)
    · exact .configuration given named escape
    · exact .document settings text fault loaded escape
    · exact .directory notices planned made unfit
    · exact .writing notices planned made wet meets

/-- A fault passes through a run just if something in its inputs, its directory or its sources
escapes. -/
theorem run_passes_iff (platform : Platform) (tree : Tree) (request : Request) :
    Passes (run platform tree request).2.2 ↔ Escape platform tree request := by
  rw [escape_iff]
  rcases plan_cases platform tree request with
    ⟨fault, refused, failed⟩ | ⟨settings, source, loaded, read, ends⟩
  · rw [run_without_plan failed]
    constructor
    · rintro ⟨_, same, unreported⟩
      cases same
      exact .inl ⟨fault, refused, unreported⟩
    · rintro (⟨other, again, unreported⟩ | ⟨_, _, made, -⟩)
      · rw [refused] at again
        cases again
        exact ⟨fault, rfl, unreported⟩
      · rw [failed] at made
        cases made
  · have inputsRead : ¬ ∃ fault, loadInputs platform tree request = .error fault ∧
        fault.isReported = false := by
      rintro ⟨fault, refused, -⟩
      rw [read] at refused
      cases refused
    rw [or_iff_right inputsRead]
    rcases ends with ⟨fault, failed⟩ | ⟨notices, planned, made, whole⟩
    · rw [run_without_plan failed, failed]
      constructor
      · rintro ⟨_, same, unreported⟩
        cases same
        cases unreported
      · rintro ⟨_, _, made, -⟩
        cases made
    · rw [planned_run_passes_iff made whole, made]
      constructor
      · exact fun escapes => ⟨notices, planned, rfl, escapes⟩
      · rintro ⟨_, _, same, escapes⟩
        cases same
        exact escapes

end Generation

end DtoForge
