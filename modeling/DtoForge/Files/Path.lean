import DtoForge.Text.Split
import DtoForge.Text.Utf8

/-!
Paths as they are written: an anchor and the parts after it. Empty parts and single dots are
dropped, parent parts are kept, so a path prints as short as it can without asking the disk. Not
every text is a path that the system takes: it takes bytes without a null byte among them.
-/

namespace DtoForge.Files

/-- Where a path starts. Exactly two leading slashes are kept apart from one. -/
inductive Anchor
  | workingDirectory
  | root
  | doubleRoot
  deriving Repr, DecidableEq

structure Path where
  anchor : Anchor
  parts : List Text
  deriving Repr, DecidableEq

inductive PathFault
  | unencodable (fault : Text.EncodeFault)
  | nullCharacter
  deriving Repr, DecidableEq

def PathFault.kind : PathFault → Text
  | .unencodable _ => "UnicodeEncodeError"
  | .nullCharacter => "ValueError"

def PathFault.message : PathFault → Text
  | .unencodable fault => fault.message
  | .nullCharacter => "embedded null byte"

namespace Path

def anchorOf : List CodePoint → Anchor
  | .char '/' :: .char '/' :: .char '/' :: _ => .root
  | .char '/' :: .char '/' :: _ => .doubleRoot
  | .char '/' :: _ => .root
  | _ => .workingDirectory

def parse (text : Text) : Path :=
  ⟨anchorOf text.toList, (Text.split '/' text).filter fun part => part ≠ "" ∧ part ≠ "."⟩

def anchorText : Anchor → Text
  | .workingDirectory => ""
  | .root => "/"
  | .doubleRoot => "//"

def text (path : Path) : Text :=
  if path.anchor = .workingDirectory ∧ path.parts.isEmpty then "."
  else anchorText path.anchor ++ Text.intercalate "/" path.parts

def isAbsolute (path : Path) : Bool := path.anchor ≠ .workingDirectory

def parent (path : Path) : Path := ⟨path.anchor, path.parts.dropLast⟩

def name (path : Path) : Text := path.parts.getLastD ""

/-- The last dot of the name and what follows, unless the dot comes first or last. -/
def suffix (path : Path) : Text :=
  let points := path.name.toList
  let tail := (points.reverse.takeWhile (· ≠ .char '.')).reverse
  let before := points.length - tail.length
  if tail.isEmpty ∨ before ≤ 1 then "" else ⟨.char '.' :: tail⟩

def join (base path : Path) : Path :=
  if path.isAbsolute then path else ⟨base.anchor, base.parts ++ path.parts⟩

/-- A code point with bytes in a name: a character or an escaped byte. -/
def hasBytes (c : CodePoint) : Bool := Text.isCharacter c || Text.isByteEscape c

def isUnfitPart (part : Text) : Bool := part.toList.any fun c => c = '\x00' || !hasBytes c

def isUnfit (path : Path) : Bool := path.parts.any isUnfitPart

def unfitFault (path : Path) : PathFault :=
  match Text.encodeFault? hasBytes 0 path.text.toList with
  | some fault => .unencodable fault
  | none => .nullCharacter

/-- Appends a part to reversed parts; a parent part cancels the part before it. -/
def pushPart (reversed : List Text) (part : Text) : List Text :=
  if part = ".." then reversed.drop 1 else part :: reversed

/-- The parts from the root when relative paths start at a working directory. -/
def absoluteParts (workingDirectory : List Text) (path : Path) : List Text :=
  let start := if path.isAbsolute then [] else workingDirectory.reverse
  (path.parts.foldl pushPart start).reverse

/-- The way to the first unfit part, with parent parts cancelled where they can be. -/
def unfitStart (path : Path) : Path :=
  let push (reversed : List Text) (part : Text) : List Text :=
    if path.isAbsolute ∨ (reversed ≠ [] ∧ reversed.head? ≠ some (".." : Text)) then
      pushPart reversed part
    else part :: reversed
  let count := (path.parts.takeWhile fun part => !isUnfitPart part).length + 1
  ⟨path.anchor, ((path.parts.take count).foldl push []).reverse⟩

def ofAbsoluteParts (parts : List Text) : Path := ⟨.root, parts⟩

example : (parse "./x//a.json").text = "x/a.json" := by decide +kernel

example : (parse "").text = "." := by decide +kernel

end Path

end DtoForge.Files
