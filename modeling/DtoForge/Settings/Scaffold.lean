import DtoForge.Files.Tree

/-!
A configuration file to start from: every setting at its default, with a comment.
-/

namespace DtoForge.Settings

def scaffoldFileName : Text := "dto-generator.yaml"

def scaffoldLines : List Text :=
  ["# Generator configuration template for schema-dto-generator.",
    "# Every setting is optional; remove a line to keep its default.",
    "",
    "resolution:",
    "  # How nested object schemas become classes: auto, inline or promote.",
    "  # auto inlines small nested objects for .json inputs and promotes them",
    "  # to shared DTO files for every other input.",
    "  policy: \"auto\"",
    "  # Nested objects with more properties than this become Map<String, dynamic>",
    "  # under the inline policy.",
    "  inline_threshold: 3",
    "",
    "output:",
    "  # Defaults to a gen/ directory next to the input document.",
    "  # directory: \"gen\"",
    "  class_suffix: \"ResponseDto\"",
    "  file_suffix: \"_response_dto\""]

def scaffold : Text := Text.intercalate "\n" scaffoldLines ++ "\n"

inductive ScaffoldFault
  | alreadyThere (path : Files.Path)
  | file (fault : Files.Fault)
  deriving Repr, DecidableEq

def ScaffoldFault.message : ScaffoldFault → Text
  | .alreadyThere path => "Configuration file already exists: " ++ path.text
  | .file fault => fault.message

def writeScaffold (tree : Files.Tree) (output : Text) :
    Files.Tree × Except ScaffoldFault Files.Path :=
  let path := Files.Path.parse output
  match tree.pathExists path with
  | .error fault => (tree, .error (.file fault))
  | .ok true =>
    match tree.resolve path with
    | .error fault => (tree, .error (.file fault))
    | .ok resolved => (tree, .error (.alreadyThere resolved))
  | .ok false =>
    match tree.writeText path scaffold with
    | (tree, .error fault) => (tree, .error (.file fault))
    | (tree, .ok _) => (tree, (tree.resolve path).mapError .file)

end DtoForge.Settings
