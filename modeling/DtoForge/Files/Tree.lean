import DtoForge.Files.Path
import DtoForge.Text.Utf8

/-!
A file system as a value, and the operations that a run performs on it. An operation that fails
gives the reason that the system would give; it may have created directories or emptied a file
before, and the tree after it shows that.

A tree has directories and files and no links. What is said of every tree is said under this
condition: no path leads through a link, so different places are different files. Names are
compared as texts, with escaped bytes where they are no UTF-8.
-/

namespace DtoForge.Files

inductive Node
  | directory
  | file (bytes : List UInt8)
  deriving Repr, DecidableEq

/-- Nodes by their parts from the root. The root itself is always a directory. -/
structure Tree where
  nodes : List (List Text × Node)
  workingDirectory : List Text
  deriving Repr, DecidableEq

inductive Cause
  | missing
  | exists
  | notDirectory
  | isDirectory
  | nameTooLong
  deriving Repr, DecidableEq

/-- Why an operation fails: the system refuses a path, or cannot be given it, or a text to be
written has no bytes. -/
inductive Fault
  | refused (cause : Cause) (path : Path)
  | unfit (fault : PathFault)
  | unencodable (fault : Text.EncodeFault)
  deriving Repr, DecidableEq

namespace Cause

def number : Cause → Nat
  | .missing => 2
  | .exists => 17
  | .notDirectory => 20
  | .isDirectory => 21
  | .nameTooLong => 36

def text : Cause → Text
  | .missing => "No such file or directory"
  | .exists => "File exists"
  | .notDirectory => "Not a directory"
  | .isDirectory => "Is a directory"
  | .nameTooLong => "File name too long"

end Cause

namespace Fault

def isRefusal : Fault → Bool
  | .refused _ _ => true
  | .unfit _ | .unencodable _ => false

def message : Fault → Text
  | .refused cause path =>
    "[Errno " ++ toString cause.number ++ "] " ++ cause.text ++ ": " ++ Text.quoted path.text
  | .unfit fault => fault.message
  | .unencodable fault => fault.message

end Fault

namespace Tree

def node? (tree : Tree) (parts : List Text) : Option Node :=
  if parts.isEmpty then some .directory
  else (tree.nodes.find? fun entry => entry.1 == parts).map (·.2)

def setNode (parts : List Text) (node : Node) :
    List (List Text × Node) → List (List Text × Node)
  | [] => [(parts, node)]
  | (other, old) :: rest =>
    if other = parts then (other, node) :: rest else (other, old) :: setNode parts node rest

def set (tree : Tree) (parts : List Text) (node : Node) : Tree :=
  { tree with nodes := setNode parts node tree.nodes }

def changes (before after : Tree) : List (List Text × Node) :=
  after.nodes.filter fun entry => before.node? entry.1 ≠ some entry.2

def partLimit : Nat := 255

def pathLimit : Nat := 4096

/-- Follows parts from a place. Only the last part may be missing; what comes back is the place
and the node there. -/
def walk (tree : Tree) : List Text → List Text → Except Cause (List Text × Option Node)
  | place, [] => .ok (place, tree.node? place)
  | place, part :: rest =>
    match tree.node? place with
    | none => .error .missing
    | some (.file _) => .error .notDirectory
    | some .directory =>
      if part = ".." then walk tree place.dropLast rest
      else if partLimit < part.byteCount then .error .nameTooLong
      else walk tree (place ++ [part]) rest

def locate (tree : Tree) (path : Path) : Except Cause (List Text × Option Node) :=
  if pathLimit ≤ path.text.byteCount then .error .nameTooLong
  else walk tree (if path.isAbsolute then [] else tree.workingDirectory) path.parts

def lookup (tree : Tree) (path : Path) : Except Cause Node :=
  match tree.locate path with
  | .error cause => .error cause
  | .ok (_, none) => .error .missing
  | .ok (_, some node) => .ok node

/-- A path that is missing or leads through a file does not exist; other refusals are faults. -/
def pathExists (tree : Tree) (path : Path) : Except Fault Bool :=
  if path.isUnfit then .ok false
  else
    match tree.lookup path with
    | .ok _ => .ok true
    | .error .missing | .error .notDirectory => .ok false
    | .error cause => .error (.refused cause path)

def isDirectory (tree : Tree) (path : Path) : Bool :=
  match tree.lookup path with
  | .ok .directory => true
  | _ => false

def readBytes (tree : Tree) (path : Path) : Except Fault (List UInt8) :=
  if path.isUnfit then .error (.unfit path.unfitFault)
  else
    match tree.lookup path with
    | .error cause => .error (.refused cause path)
    | .ok .directory => .error (.refused .isDirectory path)
    | .ok (.file bytes) => .ok bytes

/-- Creates or overwrites a file. Its directory has to be there. The file is emptied before the text
is encoded, so a text without bytes leaves it empty. -/
def writeText (tree : Tree) (path : Path) (text : Text) : Tree × Except Fault Unit :=
  if path.isUnfit then (tree, .error (.unfit path.unfitFault))
  else
    match tree.locate path with
    | .error cause => (tree, .error (.refused cause path))
    | .ok (_, some .directory) => (tree, .error (.refused .isDirectory path))
    | .ok (place, _) =>
      match Text.encodeUtf8 text with
      | .error fault => (tree.set place (.file []), .error (.unencodable fault))
      | .ok bytes => (tree.set place (.file bytes), .ok ())

def makeDirectory (tree : Tree) (path : Path) : Except Cause Tree :=
  match tree.locate path with
  | .error cause => .error cause
  | .ok (_, some _) => .error .exists
  | .ok (place, none) => .ok (tree.set place .directory)

/-- Creates a directory; one that is there already will do. -/
def ensureDirectory (tree : Tree) (path : Path) : Tree × Except Fault Unit :=
  match tree.makeDirectory path with
  | .ok tree => (tree, .ok ())
  | .error cause =>
    if cause ≠ .missing ∧ tree.isDirectory path then (tree, .ok ())
    else (tree, .error (.refused cause path))

def ensureDirectories (tree : Tree) (path : Path) : Tree × Except Fault Unit :=
  match tree.makeDirectory path with
  | .error .missing =>
    if _some_part : path.parts = [] then (tree, .error (.refused .missing path))
    else
      match ensureDirectories tree path.parent with
      | (tree, .ok _) => ensureDirectory tree path
      | (tree, .error fault) => (tree, .error fault)
  | _ => ensureDirectory tree path
termination_by path.parts.length
decreasing_by
  simp only [Path.parent, List.length_dropLast]
  have := List.length_pos_iff.mpr _some_part
  omega

def makeDirectories (tree : Tree) (path : Path) : Tree × Except Fault Unit :=
  if path.isUnfit then (tree, .error (.unfit path.unfitFault))
  else tree.ensureDirectories path

/-- The absolute path without parent parts. Without links this needs no look at the nodes, but the
system is given the path part by part. -/
def resolve (tree : Tree) (path : Path) : Except Fault Path :=
  if path.isUnfit then .error (.unfit path.unfitStart.unfitFault)
  else .ok (.ofAbsoluteParts (path.absoluteParts tree.workingDirectory))

theorem find_set_node (nodes : List (List Text × Node)) (parts other : List Text)
    (node : Node) :
    ((setNode parts node nodes).find? fun entry => entry.1 == other).map (·.2) =
      if other = parts then some node
      else (nodes.find? fun entry => entry.1 == other).map (·.2) := by
  induction nodes with
  | nil =>
      by_cases same : other = parts
      · simp [setNode, same]
      · simp [setNode, same, Ne.symm same]
  | cons entry rest induction =>
      obtain ⟨key, old⟩ := entry
      by_cases here : key = parts
      · subst here
        by_cases same : other = key
        · simp [setNode, same]
        · simp [setNode, same, Ne.symm same]
      · by_cases found : key = other
        · subst found
          simp [setNode, here]
        · have differ : (key == other) = false := by simpa using found
          simp only [setNode, here, if_false, List.find?_cons, differ, induction]

end Tree

end DtoForge.Files
