import DtoForge.CommandLine.Program
import DtoForge.Proofs.Generation.Runs

/-!
A command with several inputs: one run after the other, each on the files that the one before has
left, up to the first run that fails or whose paths cannot be printed. Every input is resolved by
itself, so two inputs may come to one path, and then the later one has it. The options are not
treated here; they are the same for all runs.
-/

namespace DtoForge.CommandLine

open Document Files Files.Tree

/-- A path that is printed for an input, with the source that was rendered for it. -/
structure Report where
  input : Text
  path : Path
  source : Text

def reportsOf (input : Text) (plan : Generation.Plan) (outcome : Outcome) : List Report :=
  plan.units.map fun unit =>
    ⟨input, outcome.outputDirectory.join (Path.parse unit.fileName), unit.source⟩

def printed (reports : List Report) : Text := textOfLines (reports.map (·.path.text))

def Printable (path : Path) : Prop := ∀ offset, .surrogate offset ∉ path.text.toList

/-- A run for one input that ends, with its reports, all of which can be printed. -/
inductive Turn (platform : Platform) (arguments : Arguments) (before : Tree) (input : Text) :
    List Report → Tree → Prop
  | ended (notices : List Notice) (plan : Generation.Plan) (outcome : Outcome)
      (made : Generation.plan platform before (requestOf arguments input) = (notices, .ok plan))
      (finished :
        (Generation.run platform before (requestOf arguments input)).2.2 = .ok outcome)
      (printable : ∀ path ∈ reportedPaths outcome, Printable path) :
      Turn platform arguments before input (reportsOf input plan outcome)
        (Generation.run platform before (requestOf arguments input)).1

/-- Runs in a row that all end. -/
inductive Batch (platform : Platform) (arguments : Arguments) :
    Tree → List Text → List Report → Tree → Prop
  | nil (tree : Tree) : Batch platform arguments tree [] [] tree
  | cons {before middle after : Tree} {input : Text} {rest : List Text}
      {reports later : List Report} (turn : Turn platform arguments before input reports middle)
      (batch : Batch platform arguments middle rest later after) :
      Batch platform arguments before (input :: rest) (reports ++ later) after

/-- Runs come to an input when those for all inputs before it have ended. -/
def Reaches (platform : Platform) (arguments : Arguments) (tree : Tree) (inputs : List Text)
    (input : Text) (middle : Tree) : Prop :=
  ∃ done rest reports, inputs = done ++ input :: rest ∧
    Batch platform arguments tree done reports middle

/-- The run for an input is the last one: it fails, or one of its paths cannot be printed. -/
inductive Halt (platform : Platform) (arguments : Arguments) (before : Tree) (input : Text) :
    Ending → Prop
  | failed (fault : RunFault)
      (failed : (Generation.run platform before (requestOf arguments input)).2.2 = .error fault) :
      Halt platform arguments before input
        (if fault.isReported then .exit 1 else .crash (.run fault))
  | unprintable (outcome : Outcome) (fault : Text.EncodeFault)
      (finished :
        (Generation.run platform before (requestOf arguments input)).2.2 = .ok outcome)
      (stuck : (printPaths (reportedPaths outcome)).2 = some fault) :
      Halt platform arguments before input (.crash (.printing fault))

variable {platform : Platform} {arguments : Arguments} {before middle after tree : Tree}
  {input : Text} {inputs rest : List Text} {reports : List Report} {start : Result}
  {fault : RunFault} {ending : Ending}

/-! ### Printing -/

theorem not_printable_iff {path : Path} :
    ¬ Printable path ↔ ∃ fault, Text.encodeUtf8 path.text = .error fault := by
  rw [Text.encode_error_iff, Printable, not_forall_not]

theorem print_paths_all {paths : List Path} (printable : ∀ path ∈ paths, Printable path) :
    printPaths paths = (textOfLines (paths.map (·.text)), none) := by
  induction paths with
  | nil => rfl
  | cons path rest induction =>
      obtain ⟨here, others⟩ := List.forall_mem_cons.mp printable
      rw [printPaths, induction others]
      cases encoded : Text.encodeUtf8 path.text with
      | error fault => exact absurd here (not_printable_iff.mpr ⟨fault, encoded⟩)
      | ok bytes => rfl

theorem print_paths_stuck {paths : List Path} (stuck : ∃ path ∈ paths, ¬ Printable path) :
    ∃ fault, (printPaths paths).2 = some fault := by
  induction paths with
  | nil =>
      obtain ⟨path, member, -⟩ := stuck
      cases member
  | cons path rest induction =>
      rw [printPaths]
      cases encoded : Text.encodeUtf8 path.text with
      | error fault => exact ⟨fault, rfl⟩
      | ok bytes =>
          refine induction ?_
          obtain ⟨other, member, unprintable⟩ := stuck
          rcases List.mem_cons.mp member with rfl | later
          · obtain ⟨fault, failed⟩ := not_printable_iff.mp unprintable
            cases encoded.symm.trans failed
          · exact ⟨other, later, unprintable⟩

/-! ### One run -/

theorem printed_append (earlier later : List Report) :
    printed (earlier ++ later) = printed earlier ++ printed later := by
  rw [printed, List.map_append, textOfLines, List.map_append, Text.join_append]
  rfl

theorem turn_or_halts (platform : Platform) (arguments : Arguments) (before : Tree)
    (input : Text) :
    (∃ reports after, Turn platform arguments before input reports after) ∨
      ∃ ending, Halt platform arguments before input ending := by
  cases result : (Generation.run platform before (requestOf arguments input)).2.2 with
  | error fault => exact .inr ⟨_, .failed fault result⟩
  | ok outcome =>
      by_cases printable : ∀ path ∈ reportedPaths outcome, Printable path
      · obtain ⟨notices, plan, made⟩ := Generation.run_ended result
        exact .inl ⟨_, _, .ended notices plan outcome made result printable⟩
      · obtain ⟨fault, stuck⟩ := print_paths_stuck (by simpa using printable)
        exact .inr ⟨_, .unprintable outcome fault result stuck⟩

theorem reported_paths_eq {request : Request} {plan : Generation.Plan} {outcome : Outcome}
    {notices : List Notice} (made : Generation.plan platform before request = (notices, .ok plan))
    (finished : (Generation.run platform before request).2.2 = .ok outcome) :
    reportedPaths outcome = (reportsOf input plan outcome).map (·.path) := by
  obtain ⟨settings, source, whole, -, ends⟩ := Generation.planned_run_ended made finished
  rw [reportsOf, List.map_map]
  rcases ends with ⟨-, rfl⟩ | ⟨-, -, rfl⟩
  · exact List.map_map
  · exact whole.paths_eq before.workingDirectory

/-- A run that is not dry writes the source of every report to its path, in their order. -/
theorem Turn.changes (turn : Turn platform arguments before input reports after)
    (wet : arguments.has .dryRun = false) :
    ∃ made, ChangedBy before after made
      (reports.map fun report => (report.path.parts, report.source)) := by
  cases turn with
  | ended notices plan outcome made finished printable =>
      obtain ⟨settings, source, whole, -, ends⟩ := Generation.planned_run_ended made finished
      rcases ends with ⟨dry, -⟩ | ⟨-, ⟨directories, changed, -⟩, rfl⟩
      · cases wet.symm.trans dry
      · refine ⟨directories, ?_⟩
        have places : (reportsOf input plan (plan.outcome before.workingDirectory
              (plan.paths before.workingDirectory) false)).map
            (fun report => (report.path.parts, report.source)) =
            placed before.workingDirectory plan.directory plan.files := by
          rw [reportsOf, placed, Generation.Plan.files, List.map_map, List.map_map]
          refine List.map_congr_left fun unit listed => ?_
          exact congrArg (·.parts, unit.source)
            (whole.path_of_unit listed before.workingDirectory).symm
        rwa [places]

theorem Turn.absolute (turn : Turn platform arguments before input reports after) :
    ∀ report ∈ reports, report.path = .ofAbsoluteParts report.path.parts := by
  cases turn with
  | ended notices plan outcome made finished printable =>
      obtain ⟨settings, source, whole, -, ends⟩ := Generation.planned_run_ended made finished
      have directory : outcome.outputDirectory =
          .ofAbsoluteParts (plan.directory.absoluteParts before.workingDirectory) := by
        rcases ends with ⟨-, rfl⟩ | ⟨-, -, rfl⟩
        · rfl
        · rfl
      rw [reportsOf, List.forall_mem_map]
      intro unit listed
      rw [whole.join_unit listed, directory]
      rfl

/-! ### Runs in a row -/

theorem Batch.changes (batch : Batch platform arguments before inputs reports after)
    (wet : arguments.has .dryRun = false) :
    ∃ made, ChangedBy before after made
      (reports.map fun report => (report.path.parts, report.source)) := by
  induction batch with
  | nil tree => exact ⟨[], .refl tree⟩
  | cons turn rest induction =>
      obtain ⟨made, changed⟩ := turn.changes wet
      obtain ⟨later, changedLater⟩ := induction
      rw [List.map_append]
      exact ⟨made ++ later, changed.trans changedLater⟩

theorem Batch.absolute (batch : Batch platform arguments before inputs reports after) :
    ∀ report ∈ reports, report.path = .ofAbsoluteParts report.path.parts := by
  induction batch with
  | nil tree => exact List.forall_mem_nil _
  | cons turn rest induction => exact List.forall_mem_append.mpr ⟨turn.absolute, induction⟩

theorem batch_or_halts (platform : Platform) (arguments : Arguments) (before : Tree)
    (inputs : List Text) :
    (∃ reports after, Batch platform arguments before inputs reports after) ∨
      ∃ input middle ending, Reaches platform arguments before inputs input middle ∧
        Halt platform arguments middle input ending := by
  induction inputs generalizing before with
  | nil => exact .inl ⟨[], before, .nil before⟩
  | cons input rest induction =>
      rcases turn_or_halts platform arguments before input with
        ⟨reports, middle, turn⟩ | ⟨ending, halts⟩
      · rcases induction middle with
          ⟨later, after, batch⟩ | ⟨other, last, ending, ⟨done, tail, later, rfl, batch⟩, halts⟩
        · exact .inl ⟨_, after, .cons turn batch⟩
        · exact .inr
            ⟨other, last, ending, ⟨input :: done, tail, _, rfl, .cons turn batch⟩, halts⟩
      · exact .inr ⟨input, before, ending, ⟨[], rest, [], rfl, .nil before⟩, halts⟩

def Result.continued (result : Result) (tree : Tree) (reports : List Report) (logged : Text) :
    Result :=
  { result with
    tree, stdout := result.stdout ++ printed reports, stderr := result.stderr ++ logged }

theorem Result.continued_twice (result : Result) (middle after : Tree)
    (reports later : List Report) (logged more : Text) :
    (result.continued middle reports logged).continued after later more =
      result.continued after (reports ++ later) (logged ++ more) := by
  rw [continued, continued, continued, printed_append]
  simp only [Text.append_assoc]

theorem run_inputs_turn (turn : Turn platform arguments start.tree input reports after) :
    ∃ logged, ∀ rest, runInputs platform arguments (input :: rest) start =
      runInputs platform arguments rest (start.continued after reports logged) := by
  cases turn with
  | ended notices plan outcome made finished printable =>
      let said := (Generation.run platform start.tree (requestOf arguments input)).2.1
      refine ⟨if arguments.has .verbose then textOfLines (said.map Notice.line) else "",
        fun rest => ?_⟩
      rw [runInputs]
      simp only [finished]
      rw [print_paths_all printable, reported_paths_eq made finished, List.map_map]
      rfl

theorem run_inputs_batch (batch : Batch platform arguments before inputs reports after)
    (start : Result) (same : start.tree = before) :
    ∃ logged, ∀ rest, runInputs platform arguments (inputs ++ rest) start =
      runInputs platform arguments rest (start.continued after reports logged) := by
  induction batch generalizing start with
  | nil tree =>
      subst same
      refine ⟨"", fun rest => ?_⟩
      have nothing : printed [] = "" := rfl
      rw [Result.continued, nothing, Text.append_empty, Text.append_empty]
      rfl
  | cons turn batch induction =>
      subst same
      obtain ⟨logged, first⟩ := run_inputs_turn turn
      obtain ⟨more, others⟩ := induction (start.continued _ _ logged) rfl
      refine ⟨logged ++ more, fun rest => ?_⟩
      rw [List.cons_append, first, others, Result.continued_twice]

theorem run_inputs_halted (start : Result) (rest : List Text)
    (halts : Halt platform arguments start.tree input ending) :
    (runInputs platform arguments (input :: rest) start).ending = ending := by
  rw [runInputs]
  cases halts with
  | failed fault failed =>
      simp only [failed]
      split
      · rfl
      · rfl
  | unprintable outcome fault finished stuck => simp only [finished, stuck]

theorem run_inputs_reached (start : Result)
    (reached : Reaches platform arguments start.tree inputs input middle)
    (halts : Halt platform arguments middle input ending) :
    (runInputs platform arguments inputs start).ending = ending := by
  obtain ⟨done, rest, reports, rfl, batch⟩ := reached
  obtain ⟨logged, goesOn⟩ := run_inputs_batch batch start rfl
  rw [goesOn]
  exact run_inputs_halted (start.continued middle reports logged) rest halts

theorem run_inputs_told (start : Result)
    (reached : Reaches platform arguments start.tree inputs input middle)
    (failed : (Generation.run platform middle (requestOf arguments input)).2.2 = .error fault)
    (reported : fault.isReported = true) :
    ∃ earlier, (runInputs platform arguments inputs start).stderr =
      earlier ++ input ++ ": " ++ fault.message ++ "\n" := by
  obtain ⟨done, rest, reports, rfl, batch⟩ := reached
  obtain ⟨logged, goesOn⟩ := run_inputs_batch batch start rfl
  rw [goesOn, runInputs]
  have same : (start.continued middle reports logged).tree = middle := rfl
  simp only [same, failed, reported, if_true]
  exact ⟨_, rfl⟩

theorem run_inputs_ended (start : Result)
    (batch : Batch platform arguments start.tree inputs reports after) :
    (runInputs platform arguments inputs start).tree = after ∧
      (runInputs platform arguments inputs start).ending = start.ending ∧
      (runInputs platform arguments inputs start).stdout = start.stdout ++ printed reports := by
  obtain ⟨logged, goesOn⟩ := run_inputs_batch batch start rfl
  have whole := goesOn []
  rw [List.append_nil] at whole
  rw [whole]
  exact ⟨rfl, rfl, rfl⟩

end DtoForge.CommandLine
