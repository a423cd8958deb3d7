import DtoForge.CommandLine.Reader
import DtoForge.Document.Yaml.Reader
import DtoForge.Proofs.CommandLine.Batch
import DtoForge.Proofs.Generation.Containment

/-!
How the command for generating ends. It exits with zero just after a batch in which every run has
ended, and with one at the first input whose run reports a fault. It does not exit at all where a
fault passes through a run or a path cannot be printed, and the inputs for which that happens are
told exactly. Which words ask for the command is up to the reader of arguments, which may be any.
-/

namespace DtoForge.CommandLine

open Document Files Files.Tree

variable {platform : Platform} {reader : ArgumentReader} {tree middle : Tree} {words : List Text}
  {arguments : Arguments} {input : Text} {fault : RunFault}

/-! ### From the program to the command -/

/-- The words ask for generating with some arguments. -/
def Asked (reader : ArgumentReader) (words : List Text) (arguments : Arguments) : Prop :=
  reader.read words = .generate arguments

theorem generate_asked (platform : Platform) (tree : Tree)
    (asked : Asked reader words arguments) :
    run platform reader tree words = runGenerate platform tree arguments := by
  rw [run, asked]

theorem generate_cases (platform : Platform) (tree : Tree) (arguments : Arguments) :
    (∃ reports, Batch platform arguments tree arguments.operands reports
        (runGenerate platform tree arguments).tree ∧
      (runGenerate platform tree arguments).ending = .exit 0 ∧
      (runGenerate platform tree arguments).stdout = printed reports) ∨
    ∃ input middle, Reaches platform arguments tree arguments.operands input middle ∧
      Halt platform arguments middle input (runGenerate platform tree arguments).ending := by
  rcases batch_or_halts platform arguments tree arguments.operands with
    ⟨reports, after, batch⟩ | ⟨input, middle, ending, reached, halts⟩
  · obtain ⟨same, ends, told⟩ := run_inputs_ended { tree, ending := .exit 0 } batch
    exact .inl ⟨reports, same ▸ batch, ends, told.trans (Text.empty_append _)⟩
  · have ends := run_inputs_reached { tree, ending := .exit 0 } reached halts
    rw [← ends] at halts
    exact .inr ⟨input, middle, reached, halts⟩

theorem halt_not_zero {ending : Ending} (halts : Halt platform arguments middle input ending) :
    ending ≠ .exit 0 := by
  cases halts with
  | failed fault failed =>
      split
      · nofun
      · nofun
  | unprintable outcome fault finished stuck => nofun

theorem exit_zero_batch (ended : (runGenerate platform tree arguments).ending = .exit 0) :
    ∃ reports, Batch platform arguments tree arguments.operands reports
        (runGenerate platform tree arguments).tree ∧
      (runGenerate platform tree arguments).stdout = printed reports := by
  rcases generate_cases platform tree arguments with
    ⟨reports, batch, -, told⟩ | ⟨input, middle, -, halts⟩
  · exact ⟨reports, batch, told⟩
  · exact absurd ended (halt_not_zero halts)

/-! ### Printed paths -/

def bothInputs : List Text := ["a.json", "b.json"]

def bothArguments : Arguments := { operands := bothInputs }

def bothWords : List Text := "generate" :: bothInputs

theorem both_asked : Asked wordReader bothWords bothArguments := by
  unfold Asked
  decide +kernel

/-- What ends the command without an exit: an input that it comes to and whose run lets a fault
pass, or whose run ends with a path that cannot be printed. -/
inductive Stray (platform : Platform) (tree : Tree) (arguments : Arguments) : Prop
  | input (input : Text) (middle : Tree)
      (reached : Reaches platform arguments tree arguments.operands input middle)
      (escape : Generation.Escape platform middle (requestOf arguments input))
  | path (input : Text) (middle : Tree) (outcome : Outcome) (path : Path)
      (reached : Reaches platform arguments tree arguments.operands input middle)
      (finished : (Generation.run platform middle (requestOf arguments input)).2.2 = .ok outcome)
      (listed : path ∈ reportedPaths outcome) (unprintable : ¬ Printable path)

theorem generate_exits_iff (platform : Platform) (tree : Tree) (arguments : Arguments) :
    (∃ code, (runGenerate platform tree arguments).ending = .exit code) ↔
      ¬ Stray platform tree arguments := by
  constructor
  · rintro ⟨code, exits⟩ stray
    cases stray with
    | input input middle reached escape =>
        obtain ⟨fault, failed, unreported⟩ := (Generation.run_passes_iff _ _ _).mpr escape
        have ends := run_inputs_reached { tree, ending := .exit 0 } reached (.failed fault failed)
        rw [unreported] at ends
        cases exits.symm.trans ends
    | path input middle outcome path reached finished listed unprintable =>
        obtain ⟨fault, stuck⟩ := print_paths_stuck ⟨path, listed, unprintable⟩
        have ends := run_inputs_reached { tree, ending := .exit 0 } reached
          (.unprintable outcome fault finished stuck)
        cases exits.symm.trans ends
  · intro contained
    rcases generate_cases platform tree arguments with
      ⟨reports, -, ends, -⟩ | ⟨input, middle, reached, halts⟩
    · exact ⟨0, ends⟩
    · generalize (runGenerate platform tree arguments).ending = ending at halts
      cases halts with
      | failed fault failed =>
          cases reported : fault.isReported with
          | true => exact ⟨1, rfl⟩
          | false =>
              have escape := (Generation.run_passes_iff _ _ _).mp ⟨fault, failed, reported⟩
              exact absurd (.input input middle reached escape) contained
      | unprintable outcome fault finished stuck =>
          by_cases printable : ∀ path ∈ reportedPaths outcome, Printable path
          · rw [print_paths_all printable] at stuck
            cases stuck
          · obtain ⟨path, listed, unprintable⟩ :
              ∃ path ∈ reportedPaths outcome, ¬ Printable path := by
              simpa using printable
            exact absurd (.path input middle outcome path reached finished listed unprintable)
              contained

/-- What ends the program without an exit when no other command is asked for: a fault of the reader
of arguments, or of the command. -/
inductive Astray (platform : Platform) (reader : ArgumentReader) (tree : Tree)
    (words : List Text) : Prop
  | words (kind message : Text) (raised : reader.read words = .raised kind message)
  | command (arguments : Arguments) (asked : Asked reader words arguments)
      (stray : Stray platform tree arguments)

theorem program_exits_iff (platform : Platform) (reader : ArgumentReader) (tree : Tree)
    (words : List Text) (noOther : ∀ arguments, reader.read words ≠ .generateConfig arguments) :
    (∃ code, (run platform reader tree words).ending = .exit code) ↔
      ¬ Astray platform reader tree words := by
  cases read : reader.read words with
  | answered code stdout stderr =>
      rw [run, read]
      refine iff_of_true ⟨code, rfl⟩ ?_
      rintro (⟨kind, message, raised⟩ | ⟨arguments, asked, -⟩)
      · cases read.symm.trans raised
      · cases read.symm.trans asked
  | raised kind message =>
      rw [run, read]
      exact iff_of_false nofun (not_not_intro (.words kind message read))
  | generate arguments =>
      rw [generate_asked platform tree read, generate_exits_iff]
      constructor
      · rintro contained (⟨kind, message, raised⟩ | ⟨other, asked, stray⟩)
        · cases read.symm.trans raised
        · cases read.symm.trans asked
          exact contained stray
      · exact fun contained stray => contained (.command arguments read stray)
  | generateConfig arguments => exact absurd read (noOther arguments)

/-- Faults that pass through a run are those of escapes, and those and paths that cannot be printed
are what the command does not exit on; every other failure of an input exits with one and names the
input. The files are reached without links. -/
theorem failures_contained_unless_escape (platform : Platform) (tree : Tree) :
    (∀ request, Generation.Passes (Generation.run platform tree request).2.2 ↔
      Generation.Escape platform tree request) ∧
    ∀ (reader : ArgumentReader) (words : List Text),
      (∀ arguments, reader.read words ≠ .generateConfig arguments) →
      ((∃ code, (run platform reader tree words).ending = .exit code) ↔
        ¬ Astray platform reader tree words) ∧
      ∀ arguments, Asked reader words arguments →
        ∀ input middle fault,
          Reaches platform arguments tree arguments.operands input middle →
          (Generation.run platform middle (requestOf arguments input)).2.2 = .error fault →
          ¬ Generation.Escape platform middle (requestOf arguments input) →
          (run platform reader tree words).ending = .exit 1 ∧
            ∃ earlier, (run platform reader tree words).stderr =
              earlier ++ input ++ ": " ++ fault.message ++ "\n" := by
  refine ⟨Generation.run_passes_iff platform tree, fun reader words noOther =>
    ⟨program_exits_iff platform reader tree words noOther, ?_⟩⟩
  intro arguments asked input middle fault reached failed contained
  have reported : fault.isReported = true := by
    rw [← Bool.not_eq_false]
    exact fun unreported =>
      contained ((Generation.run_passes_iff _ _ _).mp ⟨fault, failed, unreported⟩)
  have ends := run_inputs_reached { tree, ending := .exit 0 } reached (.failed fault failed)
  rw [reported, if_pos rfl] at ends
  rw [generate_asked platform tree asked]
  exact ⟨ends, run_inputs_told _ reached failed reported⟩

def emptySecond : Tree :=
  ⟨[([("a.json" : Text)], .file (Text.stringBytes "\x7b\"x\": 1\x7d")),
    ([("b.json" : Text)], .file (Text.stringBytes "[]"))], []⟩

theorem empty_second_reached :
    ∃ middle, Reaches .standard bothArguments emptySecond bothInputs "b.json" middle ∧
      (Generation.run .standard middle (requestOf bothArguments "b.json")).2.2 =
        .error (.source .emptyList) := by
  have runs : (Generation.run .standard emptySecond (requestOf bothArguments "a.json")).2.2.map
        (fun outcome => (printPaths (reportedPaths outcome)).2) = .ok none ∧
      (Generation.run .standard
        (Generation.run .standard emptySecond (requestOf bothArguments "a.json")).1
        (requestOf bothArguments "b.json")).2.2 = .error (.source .emptyList) := by
    decide +kernel
  rcases turn_or_halts .standard bothArguments emptySecond "a.json" with
    ⟨reports, middle, turn⟩ | ⟨ending, halts⟩
  · have reached : Reaches .standard bothArguments emptySecond bothInputs "b.json" middle :=
      ⟨["a.json"], [], _, rfl, .cons turn (.nil middle)⟩
    cases turn with
    | ended notices plan outcome made finished printable => exact ⟨_, reached, runs.2⟩
  · cases halts with
    | failed fault failed =>
        rw [failed] at runs
        cases runs.1
    | unprintable outcome fault finished stuck =>
        rw [finished] at runs
        cases stuck.symm.trans (Except.ok.inj runs.1)

theorem failures_contained_empty_second :
    (∀ arguments, wordReader.read bothWords ≠ .generateConfig arguments) ∧
    ∃ middle, Reaches .standard bothArguments emptySecond bothInputs "b.json" middle ∧
      (Generation.run .standard middle (requestOf bothArguments "b.json")).2.2 =
        .error (.source .emptyList) ∧
      ¬ Generation.Escape .standard middle (requestOf bothArguments "b.json") ∧
      (run .standard wordReader emptySecond bothWords).ending = .exit 1 ∧
      ∃ earlier, (run .standard wordReader emptySecond bothWords).stderr =
        earlier ++ "b.json: Input document is an empty list. Nothing to infer.\n" := by
  have noOther : ∀ arguments, wordReader.read bothWords ≠ .generateConfig arguments :=
    fun arguments other => nomatch both_asked.symm.trans other
  obtain ⟨middle, reached, failed⟩ := empty_second_reached
  have contained : ¬ Generation.Escape .standard middle (requestOf bothArguments "b.json") := by
    rw [← (failures_contained_unless_escape .standard middle).1, failed]
    rintro ⟨fault, same, unreported⟩
    cases same
    cases unreported
  obtain ⟨exits, earlier, told⟩ :=
    ((failures_contained_unless_escape .standard emptySecond).2 wordReader bothWords noOther).2
      bothArguments both_asked "b.json" middle _ reached failed contained
  refine ⟨noOther, middle, reached, failed, contained, exits, earlier, told.trans ?_⟩
  rw [Text.append_assoc, Text.append_assoc, Text.append_assoc]
  refine congrArg (earlier ++ ·) ?_
  decide +kernel

/-- A document, and a configuration whose one byte starts no character. -/
def unreadableFiles : Tree :=
  ⟨[([("a.json" : Text)], .file (Text.stringBytes "\x7b\"x\": 1\x7d")),
    ([("c.yaml" : Text)], .file [0xff])], []⟩

def unreadableFault : RunFault := .settings (.unreadable (.encoding ⟨.invalidStart, 0, 1, 0xff⟩))

/-- The run fails with a fault that is not its own, and the command does not exit. -/
theorem unreadable_configuration_passes :
    (Generation.run .standard unreadableFiles
        { input := "a.json", config := some ("c.yaml" : Text) }).2.2 = .error unreadableFault ∧
      unreadableFault.isReported = false ∧
      (run .standard wordReader unreadableFiles
        ["generate", "a.json", "--config", "c.yaml"]).ending = .crash (.run unreadableFault) := by
  decide +kernel

end DtoForge.CommandLine
