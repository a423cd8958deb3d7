import DtoForge.Dart.Unit
import DtoForge.Resolution.Graph
import DtoForge.Settings.Basic

/-!
One generation run: settings and source are loaded, the definitions resolved, the units rendered,
and the units written unless the run is dry. A run that fails while writing leaves what it has
written before.
-/

namespace DtoForge

open Files

/-- Files that cannot be written, with the directory they were meant for. -/
structure WriteFault where
  directory : Path
  fault : Files.Fault
  deriving Repr, DecidableEq

namespace WriteFault

def message (fault : WriteFault) : Text :=
  if fault.fault.isRefusal then
    "Failed to write generated sources to " ++ fault.directory.text ++ ": " ++ fault.fault.message
  else fault.fault.message

end WriteFault

structure OutputFile where
  name : Text
  content : Text
  deriving Repr, DecidableEq

def Dart.OutputUnit.file (unit : Dart.OutputUnit) : OutputFile := ⟨unit.fileName, unit.source⟩

/-- What writing gives: the tree after it, the notices, and the absolute paths of the files or
the first fault. -/
abbrev Written := Tree × List Notice × Except Files.Fault (List Path)

def writeFiles (directory : Path) : List OutputFile → Tree → Written
  | [], tree => (tree, [], .ok [])
  | file :: rest, tree =>
    let path := directory.join (Path.parse file.name)
    match tree.writeText path file.content with
    | (tree, .error fault) => (tree, [], .error fault)
    | (tree, .ok _) =>
      let notice := Notice.unitWritten path.text
      match tree.resolve path with
      | .error fault => (tree, [notice], .error fault)
      | .ok resolved =>
        let (tree, later, paths) := writeFiles directory rest tree
        (tree, notice :: later, paths.map (resolved :: ·))

def writeOutput (tree : Tree) (directory : Path) (files : List OutputFile) :
    Tree × List Notice × Except WriteFault (List Path) :=
  match tree.makeDirectories directory with
  | (tree, .error fault) => (tree, [], .error ⟨directory, fault⟩)
  | (tree, .ok _) =>
    let (tree, notices, paths) := writeFiles directory files tree
    (tree, notices, paths.mapError (⟨directory, ·⟩))

structure Request where
  input : Text
  config : Option Text := none
  outputDirectory : Option Text := none
  policy : Option Policy := none
  inlineThreshold : Option Document.Scalar := none
  dryRun : Bool := false

structure Outcome where
  inputPath : Path
  outputDirectory : Path
  policy : Policy
  recordNames : List Text
  fileNames : List Text
  writtenPaths : List Path
  dryRun : Bool
  deriving Repr, DecidableEq

inductive RunFault
  | settings (fault : SettingsFault)
  | source (fault : SourceFault)
  | context (fault : Resolution.ContextFault)
  | registry (fault : RegistryFault)
  | writing (fault : WriteFault)
  | path (fault : Files.Fault)
  deriving Repr, DecidableEq

namespace RunFault

/-- The run reports the fault as its own; others pass through it. -/
def isReported : RunFault → Bool
  | .settings (.inaccessible fault) | .settings (.unreadable (.file fault))
  | .settings (.unresolvable fault) | .source (.inaccessible fault) => fault.isRefusal
  | .settings (.unreadable (.encoding _)) => false
  | .settings fault => fault.isConfiguration
  | .source (.undecodable fault) => fault.isOffence
  | .source _ => true
  | .context _ => true
  | .writing fault => fault.fault.isRefusal
  | .registry _ | .path _ => false

def message : RunFault → Text
  | .settings fault => fault.message
  | .source fault => fault.message
  | .context fault => fault.message
  | .registry fault => fault.message
  | .writing fault => fault.message
  | .path fault => fault.message

end RunFault

namespace Generation

def defaultDirectoryName : Text := "gen"

def choosePolicy (request : Request) (settings : Settings) (source : Source) : Policy :=
  (request.policy.or settings.resolution.policy).getD source.defaultPolicy

def chooseThreshold (request : Request) (settings : Settings) : Document.Scalar :=
  request.inlineThreshold.getD (.int (Int.ofNat settings.resolution.inlineThreshold))

/-- The requested directory unless it is empty, else the configured one, else the default one
beside the input. -/
def chooseDirectory (tree : Tree) (request : Request) (settings : Settings) (source : Source) :
    Except Files.Fault Path :=
  match request.outputDirectory.filter (!·.isEmpty) with
  | some given => .ok (Path.parse given)
  | none =>
    match settings.output.directory with
    | some directory => .ok directory
    | none =>
      (tree.resolve source.path).map fun input => input.parent.join (.parse defaultDirectoryName)

/-- What a run produces before anything is written. -/
structure Plan where
  source : Source
  policy : Policy
  recordNames : List Text
  units : List Dart.OutputUnit
  directory : Path

def loadInputs (platform : Document.Platform) (tree : Tree) (request : Request) :
    Except RunFault (Settings × Source × List Notice) := do
  let settings ← (Settings.load platform tree request.config).mapError .settings
  let (source, notices) ← (Source.load platform tree request.input).mapError .source
  return (settings, source, notices)

abbrev Noticed (α : Type) := List Notice × Except RunFault α

def plan (platform : Document.Platform) (tree : Tree) (request : Request) : Noticed Plan :=
  match loadInputs platform tree request with
  | .error fault => ([], .error fault)
  | .ok (settings, source, loaded) =>
    let policy := choosePolicy request settings source
    match Resolution.Context.make policy (chooseThreshold request settings) with
    | .error fault => (loaded, .error (.context fault))
    | .ok context =>
      let announced := loaded ++
        [.definitionsLoaded source.definitions.length source.path.text policy.name]
      match Resolution.graphOf context source.definitions with
      | .error fault => (announced, .error (.registry fault))
      | .ok (graph, resolved) =>
        let units :=
          Dart.outputUnits graph.records settings.output.classSuffix settings.output.fileSuffix
        let directory := (chooseDirectory tree request settings source).mapError RunFault.path
        (announced ++ resolved, directory.map fun directory =>
          { source, policy, recordNames := graph.names, units, directory })

def outcomeOf (tree : Tree) (request : Request) (plan : Plan) (writtenPaths : List Path) :
    Except RunFault Outcome := do
  let inputPath ← (tree.resolve plan.source.path).mapError .path
  let outputDirectory ← (tree.resolve plan.directory).mapError .path
  return {
    inputPath, outputDirectory, policy := plan.policy, recordNames := plan.recordNames
    fileNames := plan.units.map (·.fileName), writtenPaths, dryRun := request.dryRun }

def run (platform : Document.Platform) (tree : Tree) (request : Request) : Tree × Noticed Outcome :=
  match plan platform tree request with
  | (notices, .error fault) => (tree, notices, .error fault)
  | (notices, .ok plan) =>
    if request.dryRun then (tree, notices, outcomeOf tree request plan [])
    else
      match writeOutput tree plan.directory (plan.units.map (·.file)) with
      | (tree, wrote, .error fault) => (tree, notices ++ wrote, .error (.writing fault))
      | (tree, wrote, .ok paths) => (tree, notices ++ wrote, outcomeOf tree request plan paths)

end Generation

end DtoForge
