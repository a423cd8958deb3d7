import DtoForge.Document.Spelling
import DtoForge.Schema.Basic

/-!
Schemas from decoded values. A node is a reference if it has a `$ref`, whatever else it holds;
otherwise its type names decide, `object` before all others. Reading stops at the first fragment
of the wrong shape, in document order, the required names of an object after its properties.
-/

namespace DtoForge

open Document

inductive LocationStep
  | property (name : Text)
  | items
  deriving Repr, DecidableEq

/-- A place in a document: a named root and the steps from it, outermost first. -/
structure Location where
  root : Text
  steps : List LocationStep := []
  deriving Repr, DecidableEq

namespace Location

def child (location : Location) (step : LocationStep) : Location :=
  ⟨location.root, location.steps ++ [step]⟩

def stepText : LocationStep → Text
  | .property name => "/properties/" ++ name
  | .items => "/items"

def text (location : Location) : Text :=
  location.root ++ Text.join (location.steps.map stepText)

end Location

/-- What a fragment has to be. -/
inductive SchemaOffence
  | node
  | reference
  | properties
  | required
  deriving Repr, DecidableEq

inductive SchemaFault
  | fragment (offence : SchemaOffence) (location : Location)
  | definitions
  deriving Repr, DecidableEq

def SchemaFault.message : SchemaFault → Text
  | .fragment .node location => "Schema node at " ++ location.text ++ " must be a mapping."
  | .fragment .reference location =>
    "Schema reference at " ++ location.text ++ " must be a string."
  | .fragment .properties location =>
    "Schema properties at " ++ location.text ++ " must be a mapping."
  | .fragment .required location =>
    "Schema required list at " ++ location.text ++ " must be a list of names."
  | .definitions => "Schema definitions must be a mapping of names to schemas."

namespace Schema

/-- The type names of a node: one text, or the texts of a list other than `null`. -/
def typeNames (entries : Entries) : List Text :=
  match entries.get? "type" with
  | some (.text name) => [name]
  | some (.list items) =>
    items.filterMap fun item =>
      match item with
      | .text name => if name = "null" then none else some name
      | _ => none
  | _ => []

/-- The names of a required list. A byte string counts as the list of its bytes, an entry of an
ordered mapping as the list of its two parts. -/
def requiredNames (location : Location) (entries : Entries) : Except SchemaFault (List Text) :=
  match entries.get? "required" with
  | none | some .null => .ok []
  | some (.list items) => .ok (nameSet (items.map Value.nameText))
  | some (.scalar (.bytes bytes)) => .ok (nameSet (bytes.map fun byte => toString byte.toNat))
  | some (.pair first second) => .ok (nameSet [first.nameText, second.nameText])
  | some _ => .error (.fragment .required location)

def formatName (entries : Entries) : Option Text :=
  match entries.get? "format" with
  | some (.text name) => some name
  | _ => none

/-- A node is an object by its type names, or without any by having the key `properties`. -/
def isObjectNode (entries : Entries) : Bool :=
  let types := typeNames entries
  types.contains "object" || (types.isEmpty && entries.contains "properties")

def leafNode (name : Text) (entries : Entries) : Schema :=
  match PrimitiveKind.ofName? name with
  | some kind => .primitive kind (formatName entries)
  | none => .unknown (some name)

def isTextKey (name : Text) : Scalar → Bool
  | .text key => key == name
  | _ => false

mutual

def ofValue (location : Location) : Value → Except SchemaFault Schema
  | .map entries =>
    match Entries.present? entries "$ref" with
    | some (.text pointer) => .ok (.reference pointer)
    | some _ => .error (.fragment .reference location)
    | none =>
      if isObjectNode entries then do
        match ← propertiesIn location entries with
        | none => return .object [] []
        | some properties => return .object properties (← requiredNames location entries)
      else
        match typeNames entries with
        | [] => .ok (.unknown none)
        | name :: _ =>
          if name = "array" then (itemsIn location entries).map .array
          else .ok (leafNode name entries)
  | _ => .error (.fragment .node location)

def propertiesIn (location : Location) :
    List (Scalar × Value) → Except SchemaFault (Option Definitions)
  | [] => .ok none
  | (key, value) :: rest =>
    if isTextKey "properties" key then propertiesOf location value
    else propertiesIn location rest

def propertiesOf (location : Location) : Value → Except SchemaFault (Option Definitions)
  | .null => .ok none
  | .map children => (childrenOf (fun name => location.child (.property name)) children).map some
  | _ => .error (.fragment .properties location)

def childrenOf (locate : Text → Location) :
    List (Scalar × Value) → Except SchemaFault Definitions
  | [] => .ok []
  | (key, value) :: rest => do
    let node ← ofValue (locate key.nameText) value
    let others ← childrenOf locate rest
    return (key.nameText, node) :: others

def itemsIn (location : Location) : List (Scalar × Value) → Except SchemaFault Schema
  | [] => .ok (.unknown none)
  | (key, value) :: rest =>
    if isTextKey "items" key then
      if value.isNull then .ok (.unknown none) else ofValue (location.child .items) value
    else itemsIn location rest

end

/-- A mapping of names to schemas. Keys that are spelled alike share one definition, the last. -/
def definitionsOfValue : Value → Except SchemaFault Definitions
  | .map entries => (childrenOf (fun name => ⟨"#/definitions/" ++ name, []⟩) entries).map
    Table.ofList
  | _ => .error .definitions

end Schema

end DtoForge
