import DtoForge.CommandLine.Arguments
import DtoForge.Generation
import DtoForge.Settings.Scaffold

/-!
The program as a function of its words and of the files: what it prints, how it exits, and the
files after it. A fault that no command reports ends the program at once. The reader of arguments
and the platform are parameters.
-/

namespace DtoForge.CommandLine

open Document Files

/-- A fault that passes through the program. -/
inductive Crash
  | run (fault : RunFault)
  | scaffold (fault : Settings.ScaffoldFault)
  | arguments (kind message : Text)
  | printing (fault : Text.EncodeFault)
  deriving Repr, DecidableEq

def Crash.message : Crash → Text
  | .run fault => fault.message
  | .scaffold fault => fault.message
  | .arguments _ message => message
  | .printing fault => fault.message

inductive Ending
  | exit (code : Nat)
  | crash (crash : Crash)
  deriving Repr, DecidableEq

structure Result where
  tree : Tree
  ending : Ending
  stdout : Text := ""
  stderr : Text := ""

/-- Prints paths, each on a line of its own, up to the first one that has no bytes. -/
def printPaths : List Path → Text × Option Text.EncodeFault
  | [] => ("", none)
  | path :: rest =>
    match Text.encodeUtf8 path.text with
    | .error fault => ("", some fault)
    | .ok _ =>
      let (printed, fault) := printPaths rest
      (path.text ++ "\n" ++ printed, fault)

/-! ### Generating -/

/-- The policy that the options ask for; `auto` asks for none. -/
def requestedPolicy (arguments : Arguments) : Option Policy :=
  (arguments.value? .policy).bind fun given =>
    match Settings.policyOf "--policy" (.text given) with
    | .ok policy => policy
    | .error _ => none

def requestOf (arguments : Arguments) (input : Text) : Request where
  input := input
  config := arguments.value? .config
  outputDirectory := arguments.value? .outputDirectory
  policy := requestedPolicy arguments
  inlineThreshold :=
    ((arguments.value? .inlineThreshold).bind Text.integer?).map Document.Scalar.int
  dryRun := arguments.has .dryRun

/-- The paths that a run reports: those written, or in a dry run those that would be. -/
def reportedPaths (outcome : Outcome) : List Path :=
  if outcome.dryRun then
    outcome.fileNames.map fun name => outcome.outputDirectory.join (Path.parse name)
  else outcome.writtenPaths

def runInputs (platform : Platform) (arguments : Arguments) : List Text → Result → Result
  | [], result => result
  | input :: rest, result =>
    let (tree, notices, outcome) := Generation.run platform result.tree (requestOf arguments input)
    let logged : Text :=
      if arguments.has .verbose then textOfLines (notices.map Notice.line) else ""
    let stderr := result.stderr ++ logged
    match outcome with
    | .ok outcome =>
      let (printed, unprintable) := printPaths (reportedPaths outcome)
      let result := { result with tree, stderr, stdout := result.stdout ++ printed }
      match unprintable with
      | none => runInputs platform arguments rest result
      | some fault => { result with ending := .crash (.printing fault) }
    | .error fault =>
      if fault.isReported then
        { result with
          tree, ending := .exit 1, stderr := stderr ++ input ++ ": " ++ fault.message ++ "\n" }
      else { result with tree, ending := .crash (.run fault), stderr }

/-! ### The commands -/

def runGenerate (platform : Platform) (tree : Tree) (arguments : Arguments) : Result :=
  runInputs platform arguments arguments.operands { tree, ending := .exit 0 }

def isReportedScaffold : Settings.ScaffoldFault → Bool
  | .alreadyThere _ => true
  | .file fault => fault.isRefusal

def runGenerateConfig (tree : Tree) (arguments : Arguments) : Result :=
  let output := (arguments.value? .outputPath).getD Settings.scaffoldFileName
  match Settings.writeScaffold tree output with
  | (tree, .error fault) =>
    if isReportedScaffold fault then { tree, ending := .exit 1, stderr := fault.message ++ "\n" }
    else { tree, ending := .crash (.scaffold fault) }
  | (tree, .ok path) =>
    match printPaths [path] with
    | (stdout, none) => { tree, ending := .exit 0, stdout }
    | (stdout, some fault) => { tree, ending := .crash (.printing fault), stdout }

def run (platform : Platform) (reader : ArgumentReader) (tree : Tree) (words : List Text) :
    Result :=
  match reader.read words with
  | .answered code stdout stderr => { tree, ending := .exit code, stdout, stderr }
  | .raised kind message => { tree, ending := .crash (.arguments kind message) }
  | .generate arguments => runGenerate platform tree arguments
  | .generateConfig arguments => runGenerateConfig tree arguments

end DtoForge.CommandLine
