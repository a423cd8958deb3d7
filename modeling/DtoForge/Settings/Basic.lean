import DtoForge.Dart.Class
import DtoForge.Source
import DtoForge.Text.Blank

/-!
The settings of a run, read from a configuration file. Every setting is optional; one that is
there has to have the right kind, and the first offence in the order of reading is reported.
-/

namespace DtoForge

open Document

/-- Resolution settings. Without a policy the kind of the input decides. -/
structure ResolutionSettings where
  policy : Option Policy := none
  inlineThreshold : Nat := Resolution.defaultThreshold
  deriving Repr, DecidableEq

structure OutputSettings where
  directory : Option Files.Path := none
  classSuffix : Text := Dart.defaultClassSuffix
  fileSuffix : Text := Dart.defaultFileSuffix
  deriving Repr, DecidableEq

structure Settings where
  path : Option Files.Path := none
  resolution : ResolutionSettings := {}
  output : OutputSettings := {}
  deriving Repr, DecidableEq

/-- What a setting is not. -/
inductive SettingProblem
  | notText
  | empty
  | notPolicy
  | notInteger
  | negative
  | notIdentifierPart
  deriving Repr, DecidableEq

inductive SettingsFault
  | inaccessible (fault : Files.Fault)
  | notFound (path : Files.Path)
  | unreadable (fault : ReadFault)
  | undecodable (fault : DecodeFault)
  | noMapping
  | noSection (name : Text)
  | setting (name : Text) (problem : SettingProblem)
  | unresolvable (fault : Files.Fault)
  deriving Repr, DecidableEq

def autoPolicy : Text := "auto"

def policyNames : List Text := [autoPolicy, Policy.inline.name, Policy.promote.name]

def SettingProblem.text : SettingProblem → Text
  | .notText => "must be a string"
  | .empty => "must not be empty"
  | .notPolicy => "must be one of: " ++ Text.intercalate ", " policyNames
  | .notInteger => "must be an integer"
  | .negative => "must not be negative"
  | .notIdentifierPart => "may only contain letters, digits and underscores"

namespace SettingsFault

def isConfiguration : SettingsFault → Bool
  | .notFound _ | .noMapping | .noSection _ | .setting _ _ => true
  | .undecodable fault => fault.isOffence
  | .inaccessible _ | .unreadable _ | .unresolvable _ => false

def message : SettingsFault → Text
  | .inaccessible fault => fault.message
  | .notFound path => "Configuration file not found: " ++ path.text
  | .unreadable fault => fault.message
  | .undecodable fault =>
    if fault.isOffence then "Failed to parse configuration file: " ++ fault.cause else fault.cause
  | .noMapping => "Configuration root must be a mapping."
  | .noSection name => "Configuration section '" ++ name ++ "' must be a mapping."
  | .setting name problem => name ++ " " ++ problem.text ++ "."
  | .unresolvable fault => fault.message

end SettingsFault

namespace Settings

/-- A policy by its name, in any case and with blanks around it; `auto` and null stand for none. -/
def policyOf (name : Text) : Value → Except SettingsFault (Option Policy)
  | .null => .ok none
  | .text given =>
    let stripped := Text.strip given
    if stripped = "" then .error (.setting name .empty)
    else
      let word := Text.lower stripped
      if word = autoPolicy then .ok none
      else
        match [Policy.inline, Policy.promote].find? (·.name == word) with
        | some policy => .ok (some policy)
        | none => .error (.setting name .notPolicy)
  | _ => .error (.setting name .notText)

def thresholdOf (name : Text) : Value → Except SettingsFault Nat
  | .int value => if value < 0 then .error (.setting name .negative) else .ok value.toNat
  | _ => .error (.setting name .notInteger)

def isIdentifierChar : CodePoint → Bool := CodePoint.isChar fun c => c.isAlphanum || c = '_'

/-- A piece of an identifier, blanks around it dropped; null is the empty piece. -/
def identifierPartOf (name : Text) : Value → Except SettingsFault Text
  | .null => .ok ""
  | .text given =>
    let stripped := Text.strip given
    if stripped.toList.all isIdentifierChar then .ok stripped
    else .error (.setting name .notIdentifierPart)
  | _ => .error (.setting name .notText)

def optionalTextOf (name : Text) : Value → Except SettingsFault (Option Text)
  | .null => .ok none
  | .text given =>
    let stripped := Text.strip given
    .ok (if stripped = "" then none else some stripped)
  | _ => .error (.setting name .notText)

def sectionOf (root : Entries) (name : Text) : Except SettingsFault Entries :=
  match root.present? name with
  | none => .ok []
  | some (.map entries) => .ok entries
  | some _ => .error (.noSection name)

/-- A setting that is absent has its default; one that is null has not. -/
def settingOr {α : Type} (entries : Entries) (key : Text) (default : α)
    (read : Value → Except SettingsFault α) : Except SettingsFault α :=
  match entries.get? key with
  | none => .ok default
  | some value => read value

def resolutionOf (root : Entries) : Except SettingsFault ResolutionSettings := do
  let entries ← sectionOf root "resolution"
  let policy ← settingOr entries "policy" none (policyOf "resolution.policy")
  let inlineThreshold ← settingOr entries "inline_threshold" Resolution.defaultThreshold
    (thresholdOf "resolution.inline_threshold")
  return { policy, inlineThreshold }

/-- A relative directory starts at the directory of the configuration file. -/
def directoryOf (tree : Files.Tree) (base : Files.Path) (given : Text) :
    Except SettingsFault Files.Path :=
  let path := Files.Path.parse given
  if path.isAbsolute then .ok path else (tree.resolve (base.join path)).mapError .unresolvable

def outputOf (tree : Files.Tree) (base : Files.Path) (root : Entries) :
    Except SettingsFault OutputSettings := do
  let entries ← sectionOf root "output"
  let given ← settingOr entries "directory" none (optionalTextOf "output.directory")
  let directory ← given.mapM (directoryOf tree base)
  let classSuffix ← settingOr entries "class_suffix" Dart.defaultClassSuffix
    (identifierPartOf "output.class_suffix")
  let fileSuffix ← settingOr entries "file_suffix" Dart.defaultFileSuffix
    (identifierPartOf "output.file_suffix")
  return { directory, classSuffix, fileSuffix }

def ofValue (tree : Files.Tree) (path : Files.Path) : Value → Except SettingsFault Settings
  | .null => ofEntries []
  | .map entries => ofEntries entries
  | _ => .error .noMapping
where
  ofEntries (entries : Entries) : Except SettingsFault Settings := do
    let resolution ← resolutionOf entries
    let output ← outputOf tree path.parent entries
    return { path := some path, resolution, output }

def load (platform : Platform) (tree : Files.Tree) (config : Option Text) :
    Except SettingsFault Settings :=
  match config with
  | none => .ok {}
  | some given => do
    let path := Files.Path.parse given
    let found ← (tree.pathExists path).mapError .inaccessible
    if !found then throw (.notFound path)
    let text ← (readText tree path).mapError .unreadable
    let value ← (decode platform .configuration text).mapError .undecodable
    ofValue tree path value

end Settings

end DtoForge
