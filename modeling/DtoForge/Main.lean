import DtoForge.CommandLine.Program
import DtoForge.CommandLine.Reader
import DtoForge.Document.Yaml.Reader

/-!
The executable, with the reader of YAML texts and the reader of arguments that the program is run
with. What the program may look at is copied from the disk into a tree, the program runs on the
tree, and what it changed there is written to the disk. The program only reads paths that its
arguments name, so a run is final as soon as every place that it changed has been looked at. Nothing
is seen of the disk under names that are no strings.
-/

namespace DtoForge

open Files

/-- What is known of the disk: a tree, and the places that it has been filled from. -/
structure Snapshot where
  tree : Tree
  seen : List (List Text) := []

def namedPaths (given : List Text) : List Path :=
  let attached := given.map fun argument =>
    Text.ofList ((argument.toList.dropWhile (· ≠ .char '=')).drop 1)
  ((Settings.scaffoldFileName :: given ++ attached).map Path.parse).filter (!·.isUnfit)

def placesAlong (workingDirectory : List Text) (path : Path) : List (List Text) :=
  (List.range path.parts.length).map fun count =>
    Path.absoluteParts workingDirectory ⟨path.anchor, path.parts.take (count + 1)⟩

def placesAbove (place : List Text) : List (List Text) :=
  (List.range place.length).map fun count => place.take (count + 1)

def hostName? (place : List Text) : Option String :=
  (Path.ofAbsoluteParts place).text.chars?.map String.ofList

/-- The node at a place. Only a directory has itself as a part. -/
def nodeAt? (place : List Text) : IO (Option Node) := do
  match hostName? place with
  | none => return none
  | some name =>
    try
      discard <| IO.FS.realPath (name ++ "/.")
      return some .directory
    catch _ =>
      try
        let bytes ← IO.FS.readBinFile name
        return some (.file bytes.toList)
      catch _ => return none

def look (snapshot : Snapshot) (place : List Text) : IO Snapshot := do
  if snapshot.seen.contains place then return snapshot
  let seen := place :: snapshot.seen
  match ← nodeAt? place with
  | some node => return ⟨snapshot.tree.set place node, seen⟩
  | none => return ⟨snapshot.tree, seen⟩

partial def settle (given : List Text) (snapshot : Snapshot) :
    IO (Snapshot × CommandLine.Result) := do
  let result := CommandLine.run .standard CommandLine.wordReader snapshot.tree given
  let changed := (snapshot.tree.changes result.tree).map (·.1)
  let unseen := changed.filter (!snapshot.seen.contains ·)
  if unseen.isEmpty then return (snapshot, result)
  settle given (← unseen.foldlM look snapshot)

def writeNode (place : List Text) (node : Node) : IO Unit :=
  match hostName? place, node with
  | none, _ => throw (IO.userError "a name of the disk has to be a string")
  | some name, .directory => IO.FS.createDir name
  | some name, .file bytes => IO.FS.writeBinFile name ⟨bytes.toArray⟩

def shownText (text : Text) : String :=
  String.ofList <| text.toList.flatMap fun point =>
    match point with
    | .char c => [c]
    | .surrogate _ => Text.codeEscape point.toNat

def execute (given : List Text) : IO UInt32 := do
  let currentDirectory := toString (← IO.currentDir)
  let workingDirectory := (Path.parse currentDirectory).parts
  let named := (namedPaths given).flatMap (placesAlong workingDirectory)
  let places := placesAbove workingDirectory ++ named.flatMap placesAbove
  let (snapshot, result) ← settle given (← places.foldlM look ⟨⟨[], workingDirectory⟩, []⟩)
  for (place, node) in snapshot.tree.changes result.tree do
    writeNode place node
  IO.print (shownText result.stdout)
  IO.eprint (shownText result.stderr)
  match result.ending with
  | .exit code => return UInt32.ofNat code
  | .crash crash =>
    IO.eprintln (shownText crash.message)
    return 1

end DtoForge

def main (given : List String) : IO UInt32 :=
  DtoForge.execute (given.map DtoForge.Text.ofString)
