import DtoForge.Document.Decoding
import DtoForge.Document.Example
import DtoForge.Files.Tree
import DtoForge.Resolution.Type
import DtoForge.Schema.Inference
import DtoForge.Schema.Reading

/-!
Schema sources: the definitions that an input document gives. Declared definitions win; without
them an example response or the document itself is taken as an example.
-/

namespace DtoForge

open Document

inductive Origin
  | declared
  | responseExample
  | listElement
  | wholeDocument
  deriving Repr, DecidableEq

structure Source where
  path : Files.Path
  definitions : Definitions
  origin : Origin
  defaultPolicy : Policy

/-- Why the text of a file is not to be had. -/
inductive ReadFault
  | file (fault : Files.Fault)
  | encoding (fault : Text.Utf8Fault)
  deriving Repr, DecidableEq

def ReadFault.message : ReadFault → Text
  | .file fault => fault.message
  | .encoding fault => fault.message

def readText (tree : Files.Tree) (path : Files.Path) : Except ReadFault String := do
  let bytes ← (tree.readBytes path).mapError .file
  (Text.decodeFile bytes).mapError .encoding

inductive SourceFault
  | inaccessible (fault : Files.Fault)
  | notFound (path : Files.Path)
  | unreadable (path : Files.Path) (fault : ReadFault)
  | undecodable (fault : DecodeFault)
  | emptyList
  | noContainer
  | schema (fault : SchemaFault)
  | noDefinitions
  | noExample
  deriving Repr, DecidableEq

namespace SourceFault

def message : SourceFault → Text
  | .inaccessible fault => fault.message
  | .notFound path => "Schema document not found: " ++ path.text
  | .unreadable path fault =>
    "Failed to read schema document " ++ path.text ++ ": " ++ fault.message
  | .undecodable fault => fault.message
  | .emptyList => "Input document is an empty list. Nothing to infer."
  | .noContainer => "Unexpected document format; expected a mapping or a list."
  | .schema fault => fault.message
  | .noDefinitions => "Schema document declares no schema definitions."
  | .noExample => "No schemas could be inferred from the document."

end SourceFault

namespace Source

/-- The key of the one definition that an example gives. -/
def inferredKey : Text := "Inferred"

def isJsonPath (path : Files.Path) : Bool := Text.lower path.suffix == ".json"

def formatOf (path : Files.Path) : Format := if isJsonPath path then .json else .yaml

/-- Documents in JSON inline their nested objects, others share them. -/
def policyOf (path : Files.Path) : Policy := if isJsonPath path then .inline else .promote

def declared? (document : Entries) : Option Value :=
  ((document.get? "components").bind fun components =>
      (components.field? "schemas").filter (!·.isNull)).or
    (document.present? "definitions")

def ofExample (path : Files.Path) (origin : Origin) (sample : Value) : Source :=
  ⟨path, [(inferredKey, Schema.infer sample)], origin, policyOf path⟩

def ofValue (path : Files.Path) (document : Value) : Except SourceFault (Source × List Notice) :=
  match document with
  | .list [] => .error .emptyList
  | .list (first :: _) => .ok (ofExample path .listElement first, [.listDocument])
  | .map entries =>
    match declared? entries with
    | some declared =>
      match Schema.definitionsOfValue declared with
      | .error fault => .error (.schema fault)
      | .ok [] => .error .noDefinitions
      | .ok definitions => .ok (⟨path, definitions, .declared, policyOf path⟩, [])
    | none =>
      match Entries.get? entries "paths" with
      | some paths =>
        match responseExample paths with
        | some found => .ok (ofExample path .responseExample found, [.exampleResponse])
        | none => .error .noExample
      | none => .ok (ofExample path .wholeDocument document, [.wholeDocument])
  | .scalar _ | .set _ | .pair _ _ => .error .noContainer

def load (platform : Platform) (tree : Files.Tree) (input : Text) :
    Except SourceFault (Source × List Notice) := do
  let path := Files.Path.parse input
  let found ← (tree.pathExists path).mapError .inaccessible
  if !found then throw (.notFound path)
  let text ← (readText tree path).mapError (.unreadable path)
  let document ← (decode platform (.document (formatOf path)) text).mapError .undecodable
  ofValue path document

end Source

end DtoForge
