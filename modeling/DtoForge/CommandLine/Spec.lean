import DtoForge.CommandLine.Arguments
import DtoForge.Settings.Scaffold

/-!
The commands of the program with their options, declared once for reading arguments and for the
help pages.
-/

namespace DtoForge.CommandLine

/-- An option with its names. One that takes a value says by a word what the value is. -/
structure OptionSpec where
  key : OptionKey
  short : Option Char
  long : Text
  valueName : Option Text
  help : Text
  deriving Repr, DecidableEq

namespace OptionSpec

def takesValue (option : OptionSpec) : Bool := option.valueName.isSome

def shortName (c : Char) : Text := ⟨[.char '-', .char c]⟩

def heading (option : OptionSpec) : Text :=
  let short : Text :=
    match option.short with
    | some c => shortName c ++ ", "
    | none => ""
  let value : Text :=
    match option.valueName with
    | some name => " " ++ name
    | none => ""
  short ++ option.long ++ value

end OptionSpec

structure Command where
  path : Text
  usage : Text
  description : Text
  options : List OptionSpec
  deriving Repr, DecidableEq

def programName : Text := "schema-dto-generator"

def programVersion : Text := "0.1.0"

def helpOption : OptionSpec := ⟨.help, some 'h', "--help", none, "Show this message and exit."⟩

def root : Command where
  path := programName
  usage := "[OPTIONS] COMMAND [ARGS]..."
  description := "Generate Dart DTO classes from OpenAPI/JSON-Schema documents or examples."
  options := [⟨.version, none, "--version", none, "Show the version and exit."⟩, helpOption]

def inputsName : Text := "INPUT_PATHS..."

def generate : Command where
  path := programName ++ " generate"
  usage := "[OPTIONS] " ++ inputsName
  description := "Generate DTO classes for each INPUT_PATHS document."
  options :=
    [⟨.config, none, "--config", some "PATH", "Path to YAML generator configuration file"⟩,
      ⟨.outputDirectory, none, "--output-dir", some "PATH",
        "Directory for generated Dart files (defaults to gen/ next to each input)"⟩,
      ⟨.policy, none, "--policy", some ("[" ++ Text.intercalate "|" policyChoices ++ "]"),
        "Nested object handling; auto inlines for .json inputs and promotes otherwise."⟩,
      ⟨.inlineThreshold, none, "--inline-threshold", some "INTEGER RANGE",
        "Largest nested object, in properties, that is inlined under the inline policy.  [x>=0]"⟩,
      ⟨.dryRun, none, "--dry-run", none,
        "Resolve and render without writing files; list the files that would be written."⟩,
      ⟨.verbose, some 'v', "--verbose", none, "Log resolution progress."⟩,
      helpOption]

def generateConfig : Command where
  path := programName ++ " generate-config"
  usage := "[OPTIONS]"
  description := "Generate a generator configuration file with guidance comments."
  options :=
    [⟨.outputPath, none, "--output", some "PATH",
        "Path to the YAML generator configuration template to write  [default: " ++
          Settings.scaffoldFileName ++ "]"⟩,
      helpOption]

/-- The commands by name, each with its line on the program's help page. -/
def commands : List (Text × Text × Command) :=
  [("generate", generate.description, generate),
    ("generate-config", "Generate a generator configuration file with guidance...",
      generateConfig)]

end DtoForge.CommandLine
