import DtoForge.Generation
import DtoForge.Proofs.Files.Changes
import DtoForge.Proofs.Steps

/-!
What writing files leaves behind, whether it comes to its end or not. Files are written in order, so
writing that stops has written the files before the one that was refused and nothing else;
directories that were made on the way stay. The file that was refused is emptied if its content has
no bytes, and is not touched else.
-/

namespace DtoForge

open Files Files.Tree

variable {before after : Tree} {directory : Path} {files : List OutputFile} {notices : List Notice}
  {paths : List Path}

def OutputFile.place (file : OutputFile) (workingDirectory : List Text) (directory : Path) :
    List Text :=
  (directory.join (Path.parse file.name)).absoluteParts workingDirectory

def placed (workingDirectory : List Text) (directory : Path) (files : List OutputFile) :
    List (List Text × Text) :=
  files.map fun file => (file.place workingDirectory directory, file.content)

theorem resolve_of_fit {tree : Tree} {path : Path} (fit : path.isUnfit = false) :
    tree.resolve path = .ok (.ofAbsoluteParts (path.absoluteParts tree.workingDirectory)) := by
  rw [resolve, fit]
  rfl

def OutputFile.path (file : OutputFile) (directory : Path) : Path :=
  directory.join (Path.parse file.name)

def OutputFile.remnant (file : OutputFile) (fault : Files.Fault) : List OutputFile :=
  fault.remnant.map (⟨file.name, ·⟩)

section

variable {file : OutputFile} {fault : Files.Fault}

theorem write_text_written
    (written : before.writeText (file.path directory) file.content = (after, .ok ())) :
    before.Takes (file.path directory) ∧
      ChangedBy before after [] (placed before.workingDirectory directory [file]) := by
  have attempt := write_text_attempt before (file.path directory) file.content
  rw [written] at attempt
  cases attempt with
  | written _ takes changed => exact ⟨takes, changed⟩

theorem write_text_refused
    (refused : before.writeText (file.path directory) file.content = (after, .error fault)) :
    ChangedBy before after [] (placed before.workingDirectory directory (file.remnant fault)) := by
  have attempt := write_text_attempt before (file.path directory) file.content
  rw [refused] at attempt
  cases attempt with
  | barred fault bar own =>
      rw [OutputFile.remnant, own.nothing]
      exact .refl before
  | emptied after fault takes unencodable changed => exact changed

theorem write_files_refused (rest : List OutputFile)
    (refused : before.writeText (file.path directory) file.content = (after, .error fault)) :
    writeFiles directory (file :: rest) before = (after, [], .error fault) := by
  rw [writeFiles, ← OutputFile.path, refused]

theorem write_files_written (rest : List OutputFile)
    (written : before.writeText (file.path directory) file.content = (after, .ok ())) :
    writeFiles directory (file :: rest) before =
      ((writeFiles directory rest after).1,
        .unitWritten (file.path directory).text :: (writeFiles directory rest after).2.1,
        (writeFiles directory rest after).2.2.map
          (.ofAbsoluteParts (file.place before.workingDirectory directory) :: ·)) := by
  obtain ⟨takes, changed⟩ := write_text_written written
  rw [writeFiles, ← OutputFile.path, written]
  dsimp only
  rw [resolve_of_fit takes.1, changed.workingDirectory]
  rfl

theorem write_files_cons_ok {rest : List OutputFile}
    (wrote : writeFiles directory (file :: rest) before = (after, notices, .ok paths)) :
    ∃ middle told others,
      before.writeText (file.path directory) file.content = (middle, .ok ()) ∧
      writeFiles directory rest middle = (after, told, .ok others) ∧
      notices = .unitWritten (file.path directory).text :: told ∧
      paths = .ofAbsoluteParts (file.place before.workingDirectory directory) :: others := by
  cases written : before.writeText (file.path directory) file.content with
  | mk middle result =>
      cases result with
      | error fault =>
          rw [write_files_refused rest written] at wrote
          cases wrote
      | ok _ =>
          rw [write_files_written rest written, Prod.mk.injEq, Prod.mk.injEq] at wrote
          obtain ⟨same, told, ended⟩ := wrote
          obtain ⟨others, later, named⟩ := map_ok ended
          exact ⟨middle, _, others, rfl, Prod.ext same (Prod.ext rfl later), told.symm, named.symm⟩

end

theorem write_files_ok (wrote : writeFiles directory files before = (after, notices, .ok paths)) :
    ChangedBy before after [] (placed before.workingDirectory directory files) ∧
      paths = files.map fun file =>
        .ofAbsoluteParts (file.place before.workingDirectory directory) := by
  induction files generalizing before notices paths with
  | nil =>
      cases wrote
      exact ⟨.refl _, rfl⟩
  | cons file rest induction =>
      obtain ⟨middle, told, others, written, wroteRest, -, rfl⟩ := write_files_cons_ok wrote
      have changed := (write_text_written written).2
      obtain ⟨changedLater, rfl⟩ := induction wroteRest
      rw [changed.workingDirectory] at changedLater ⊢
      exact ⟨changed.trans changedLater, rfl⟩

theorem write_files_append {middle : Tree}
    (wrote : writeFiles directory files before = (middle, notices, .ok paths))
    (rest : List OutputFile) :
    writeFiles directory (files ++ rest) before =
      ((writeFiles directory rest middle).1, notices ++ (writeFiles directory rest middle).2.1,
        (writeFiles directory rest middle).2.2.map (paths ++ ·)) := by
  induction files generalizing before notices paths with
  | nil =>
      cases wrote
      refine Prod.ext rfl (Prod.ext rfl ?_)
      exact (congrFun Except.map_id _).symm
  | cons file others induction =>
      obtain ⟨first, told, later, written, wroteRest, rfl, rfl⟩ := write_files_cons_ok wrote
      rw [List.cons_append, write_files_written _ written, induction wroteRest]
      refine Prod.ext rfl (Prod.ext rfl ?_)
      cases (writeFiles directory rest middle).2.2 with
      | error fault => rfl
      | ok last => rfl

theorem write_files_stopped {fault : Files.Fault}
    (wrote : writeFiles directory files before = (after, notices, .error fault)) :
    ∃ done next later middle told paths, files = done ++ next :: later ∧
      writeFiles directory done before = (middle, told, .ok paths) ∧
      middle.writeText (next.path directory) next.content = (after, .error fault) := by
  induction files generalizing before notices with
  | nil => cases wrote
  | cons file rest induction =>
      cases written : before.writeText (file.path directory) file.content with
      | mk middle result =>
          cases result with
          | error cause =>
              rw [write_files_refused rest written] at wrote
              cases wrote
              exact ⟨[], file, rest, before, [], [], rfl, rfl, written⟩
          | ok _ =>
              rw [write_files_written rest written, Prod.mk.injEq, Prod.mk.injEq] at wrote
              obtain ⟨same, -, failed⟩ := wrote
              obtain ⟨done, next, others, last, told, paths, rfl, wroteDone, refused⟩ :=
                induction (Prod.ext same (Prod.ext rfl (map_failed failed)))
              have whole := write_files_written done written
              rw [wroteDone] at whole
              exact ⟨file :: done, next, others, last, _, _, rfl, whole, refused⟩

/-! ### With the directory -/

/-- What writing files changes: the way to their directory, and the files. -/
def Wrote (before after : Tree) (directory : Path) (files : List OutputFile) : Prop :=
  ∃ made, ChangedBy before after made (placed before.workingDirectory directory files) ∧
    ∀ place ∈ made, directory.LeadsThrough before.workingDirectory place

theorem Wrote.workingDirectory (wrote : Wrote before after directory files) :
    after.workingDirectory = before.workingDirectory := by
  obtain ⟨made, changed, -⟩ := wrote
  exact changed.workingDirectory

theorem Files.Tree.MadeWay.wrote {middle : Tree} (way : MadeWay before middle directory)
    (changed : ChangedBy middle after [] (placed middle.workingDirectory directory files)) :
    Wrote before after directory files := by
  obtain ⟨made, changedBefore, leads⟩ := way
  rw [changedBefore.workingDirectory] at changed
  refine ⟨made, ?_, leads⟩
  have both := changedBefore.trans changed
  rwa [List.append_nil] at both

theorem Wrote.unchanged_iff (wrote : Wrote before after directory files)
    (distinct : ((placed before.workingDirectory directory files).map (·.1)).Nodup) :
    (∀ place, after.node? place = before.node? place) ↔
      (∀ place, directory.LeadsThrough before.workingDirectory place →
        after.node? place = before.node? place) ∧
      ∀ file ∈ files, before.Holds (file.place before.workingDirectory directory) file.content := by
  obtain ⟨made, changed, leads⟩ := wrote
  have traces := changed.unchanged_iff distinct
  rw [placed, List.forall_mem_map] at traces
  constructor
  · intro same
    exact ⟨fun place _ => same place, (traces.mp same).2⟩
  · rintro ⟨way, there⟩
    refine traces.mpr ⟨List.eq_nil_iff_forall_not_mem.mpr fun place member => ?_, there⟩
    have absent := changed.fresh place member
    rw [← way place (leads place member)] at absent
    exact (changed.untouched absent).2.1 member

theorem write_output_cases (before : Tree) (directory : Path) (files : List OutputFile) :
    (∃ after fault, before.makeDirectories directory = (after, .error fault) ∧
      fault.Bars directory ∧ MadeWay before after directory ∧
      writeOutput before directory files = (after, [], .error ⟨directory, fault⟩)) ∨
    ∃ middle, before.makeDirectories directory = (middle, .ok ()) ∧
      directory.isUnfit = false ∧ MadeWay before middle directory ∧
      ∀ files, writeOutput before directory files =
        ((writeFiles directory files middle).1, (writeFiles directory files middle).2.1,
          (writeFiles directory files middle).2.2.mapError (⟨directory, ·⟩)) := by
  have way := make_directories_makes_way before directory
  cases made : before.makeDirectories directory with
  | mk middle result =>
      rw [made] at way
      rcases make_directories_ends made with ⟨rfl, fit⟩ | ⟨fault, rfl, own⟩
      · exact .inr ⟨middle, rfl, fit, way, fun files => by rw [writeOutput, made]⟩
      · exact .inl ⟨middle, fault, rfl, own, way, by rw [writeOutput, made]⟩

theorem write_output_ended {start : Tree}
    (ready : ∀ files, writeOutput before directory files =
      ((writeFiles directory files start).1, (writeFiles directory files start).2.1,
        (writeFiles directory files start).2.2.mapError (⟨directory, ·⟩)))
    (wrote : writeOutput before directory files = (after, notices, .ok paths)) :
    writeFiles directory files start = (after, notices, .ok paths) := by
  rw [ready, Prod.mk.injEq, Prod.mk.injEq] at wrote
  exact Prod.ext wrote.1 (Prod.ext wrote.2.1 (map_error_ok wrote.2.2))

theorem write_output_ok (wrote : writeOutput before directory files = (after, notices, .ok paths)) :
    directory.isUnfit = false ∧ Wrote before after directory files ∧
      paths = files.map fun file =>
        .ofAbsoluteParts (file.place before.workingDirectory directory) := by
  rcases write_output_cases before directory files with
    ⟨_, _, -, -, -, failed⟩ | ⟨middle, -, fit, way, ready⟩
  · rw [failed] at wrote
    cases wrote
  obtain ⟨changed, rfl⟩ := write_files_ok (write_output_ended ready wrote)
  refine ⟨fit, way.wrote changed, ?_⟩
  rw [way.workingDirectory]

/-- Why writing stops after some files, before some others: the system refuses the directory, or the
next of the files cannot be written when the first ones are. -/
inductive Stopped (before after : Tree) (directory : Path) (fault : Files.Fault) :
    List OutputFile → List OutputFile → Prop
  | directory (files : List OutputFile)
      (refused : before.makeDirectories directory = (after, .error fault)) :
      Stopped before after directory fault [] files
  | file (middle : Tree) (notices : List Notice) (paths : List Path) (done : List OutputFile)
      (next : OutputFile) (later : List OutputFile)
      (wrote : writeOutput before directory done = (middle, notices, .ok paths))
      (refused : middle.writeText (next.path directory) next.content = (after, .error fault)) :
      Stopped before after directory fault done (next :: later)

/-- What a fault leaves of the files that were not written. -/
def remnants (fault : Files.Fault) : List OutputFile → List OutputFile
  | [] => []
  | next :: _ => next.remnant fault

theorem Stopped.wrote {fault : Files.Fault} {done rest : List OutputFile}
    (stopped : Stopped before after directory fault done rest) :
    Wrote before after directory (done ++ remnants fault rest) := by
  cases stopped with
  | directory files refused =>
      rcases write_output_cases before directory rest with
        ⟨_, _, again, own, way, -⟩ | ⟨middle, ready, -⟩
      · cases refused.symm.trans again
        have nothing : remnants fault rest = [] := by
          cases rest with
          | nil => rfl
          | cons next later => exact congrArg (List.map _) own.nothing
        rw [nothing]
        exact way.wrote (.refl after)
      · cases refused.symm.trans ready
  | file middle notices paths done next later wrote refused =>
      obtain ⟨-, ⟨made, changed, leads⟩, -⟩ := write_output_ok wrote
      have left := write_text_refused refused
      rw [changed.workingDirectory] at left
      refine ⟨made, ?_, leads⟩
      have both := changed.trans left
      rwa [List.append_nil, placed, placed, ← List.map_append] at both

/-- Writing fails just if it stops somewhere in the files. -/
theorem write_output_stopped_iff (fault : WriteFault) :
    (∃ notices, writeOutput before directory files = (after, notices, .error fault)) ↔
      fault.directory = directory ∧ ∃ done rest, files = done ++ rest ∧
        Stopped before after directory fault.fault done rest := by
  constructor
  · rintro ⟨notices, wrote⟩
    rcases write_output_cases before directory files with
      ⟨_, _, refused, -, -, failed⟩ | ⟨middle, made, -, -, ready⟩
    · rw [failed] at wrote
      cases wrote
      exact ⟨rfl, [], files, rfl, .directory files refused⟩
    rw [ready, Prod.mk.injEq, Prod.mk.injEq] at wrote
    obtain ⟨same, -, failed⟩ := wrote
    obtain ⟨cause, written, rfl⟩ := map_error_error failed
    obtain ⟨done, next, later, last, told, paths, rfl, wroteDone, refused⟩ :=
      write_files_stopped (Prod.ext same (Prod.ext rfl written))
    refine ⟨rfl, done, next :: later, rfl, .file last told paths done next later ?_ refused⟩
    rw [ready, wroteDone]
    rfl
  · obtain ⟨named, cause⟩ := fault
    rintro ⟨same, done, rest, rfl, stopped⟩
    subst same
    cases stopped with
    | directory files refused =>
        refine ⟨[], ?_⟩
        rw [List.nil_append, writeOutput, refused]
    | file middle notices paths done next later wrote refused =>
        rcases write_output_cases before named done with
          ⟨_, _, -, -, -, failed⟩ | ⟨start, made, -, -, ready⟩
        · rw [failed] at wrote
          cases wrote
        rw [ready, write_files_append (write_output_ended ready wrote),
          write_files_refused later refused]
        exact ⟨_, rfl⟩

end DtoForge
