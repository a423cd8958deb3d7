import DtoForge.CommandLine.Help
import DtoForge.CommandLine.Similarity
import DtoForge.Text.Quoted

/-!
Words as options and operands. A long option takes its value after an equals sign or from the
next argument; short options may be run together, and the rest of such an argument is the value of
the first one that takes a value. Two hyphens end the options.
-/

namespace DtoForge.CommandLine

/-- What is wrong with the arguments. -/
inductive UsageProblem
  | noOption (name : Text) (suggested : List Text)
  | valueMissing (name : Text)
  | valueUnexpected (name : Text)
  | badChoice (name given : Text) (choices : List Text)
  | notRange (name given : Text)
  | belowRange (name : Text) (given : Int)
  | argumentMissing (name : Text)
  | extraArguments (given : List Text)
  | commandMissing
  | noCommand (name : Text)
  deriving Repr, DecidableEq

namespace UsageProblem

def suggestionText : List Text → Text
  | [] => ""
  | [one] => " Did you mean " ++ one ++ "?"
  | several => " (Possible options: " ++ Text.intercalate ", " several ++ ")"

def text : UsageProblem → Text
  | .noOption name suggested => "No such option: " ++ name ++ suggestionText suggested
  | .valueMissing name => "Option " ++ Text.quoted name ++ " requires an argument."
  | .valueUnexpected name => "Option " ++ Text.quoted name ++ " does not take a value."
  | .badChoice name given choices =>
    "Invalid value for '" ++ name ++ "': " ++ Text.quoted given ++ " is not one of " ++
      Text.intercalate ", " (choices.map Text.quoted) ++ "."
  | .notRange name given =>
    "Invalid value for '" ++ name ++ "': " ++ Text.quoted given ++ " is not a valid integer range."
  | .belowRange name given =>
    "Invalid value for '" ++ name ++ "': " ++ toString given ++ " is not in the range x>=0."
  | .argumentMissing name => "Missing argument '" ++ name ++ "'."
  | .extraArguments given =>
    let noun : Text := if given.length = 1 then "argument" else "arguments"
    "Got unexpected extra " ++ noun ++ " (" ++ Text.intercalate " " given ++ ")"
  | .commandMissing => "Missing command."
  | .noCommand name => "No such command " ++ Text.quoted name ++ "."

def showsUsage : UsageProblem → Bool
  | .valueMissing _ | .valueUnexpected _ => false
  | _ => true

end UsageProblem

def problemLines (command : Command) (problem : UsageProblem) : List Text :=
  let error : Text := "Error: " ++ problem.text
  if problem.showsUsage then
    [usageLine command, "Try '" ++ command.path ++ " -h' for help.", "", error]
  else [error]

def Arguments.keys (arguments : Arguments) : List OptionKey :=
  (arguments.given.map (·.1)).eraseDups

/-- What comes before the first equals sign and what comes after it, if there is one. -/
def splitValue (argument : Text) : Text × Option Text :=
  let points := argument.toList
  match points.dropWhile (· ≠ .char '=') with
  | [] => (argument, none)
  | _ :: value => (⟨points.takeWhile (· ≠ .char '=')⟩, some ⟨value⟩)

abbrev OptionsRead := Except UsageProblem (List (OptionKey × Text) × List Text)

def withValue (option : OptionSpec) (name : Text) (attached : Option Text)
    (rest : List Text) : OptionsRead :=
  match attached, rest with
  | some value, _ => .ok ([(option.key, value)], rest)
  | none, value :: rest => .ok ([(option.key, value)], rest)
  | none, [] => .error (.valueMissing name)

/-- Short options run together after one hyphen. -/
def shortOptions (command : Command) (hyphen : CodePoint) : List CodePoint → List Text → OptionsRead
  | [], rest => .ok ([], rest)
  | c :: points, rest =>
    let name : Text := ⟨[hyphen, c]⟩
    match command.options.find? fun option =>
        option.short.map OptionSpec.shortName == some name with
    | none => .error (.noOption name [])
    | some option =>
      if option.takesValue then
        withValue option name (if points.isEmpty then none else some ⟨points⟩) rest
      else
        (shortOptions command hyphen points rest).map fun (others, rest) =>
          ((option.key, "") :: others, rest)

def readOption (command : Command) (argument : Text) (rest : List Text) : OptionsRead :=
  let (name, attached) := splitValue argument
  match command.options.find? (·.long == name) with
  | some option =>
    if option.takesValue then withValue option name attached rest
    else
      match attached with
      | some _ => .error (.valueUnexpected name)
      | none => .ok ([(option.key, "")], rest)
  | none =>
    match argument.toList with
    | .char '-' :: .char '-' :: _ =>
      .error (.noOption name (suggestions name (command.options.map (·.long))))
    | hyphen :: points => shortOptions command hyphen points rest
    | [] => .ok ([], rest)

def isOption (argument : Text) : Bool :=
  match argument.toList with
  | .char '-' :: _ :: _ => true
  | _ => false

/-- Reads arguments. Where operands may not stand among the options, the first one ends them. The
bound is the number of arguments: every step takes at least one. -/
def readArguments (command : Command) (mixed : Bool) :
    Nat → List Text → Except UsageProblem Arguments
  | _, [] => .ok {}
  | 0, rest => .ok { operands := rest }
  | limit + 1, argument :: rest =>
    if argument = "--" then .ok { operands := rest }
    else if isOption argument then
      match readOption command argument rest with
      | .error problem => .error problem
      | .ok (given, rest) =>
        (readArguments command mixed limit rest).map fun arguments =>
          { arguments with given := given ++ arguments.given }
    else if mixed then
      (readArguments command mixed limit rest).map fun arguments =>
        { arguments with operands := argument :: arguments.operands }
    else .ok { operands := argument :: rest }

def argumentsOf (command : Command) (mixed : Bool) (arguments : List Text) :
    Except UsageProblem Arguments :=
  readArguments command mixed arguments.length arguments

end DtoForge.CommandLine
