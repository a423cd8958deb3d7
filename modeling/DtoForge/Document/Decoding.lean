import DtoForge.Document.Json

/-!
Documents in either of two formats. The texts in JSON are read here; the reader of YAML texts
belongs to the platform. An offence against the format is a fault of the document; whatever else
ends a reading is passed on as it is.
-/

namespace DtoForge.Document

inductive Format
  | json
  | yaml
  deriving Repr, DecidableEq

/-- What a text is read as. -/
inductive Role
  | document (format : Format)
  | configuration
  deriving Repr, DecidableEq

def Role.format : Role → Format
  | .document format => format
  | .configuration => .yaml

/-- What a reader tells of a text without value: an offence against its language, or anything else
by the kind of the fault. -/
inductive ReaderFault
  | offence (message : Text)
  | raised (kind message : Text)
  deriving Repr, DecidableEq

abbrev YamlReader := String → Except ReaderFault Value

/-- What a run is given by its surroundings: the reader of YAML texts, and the texts that are too
much to be handled in their role, be it for the depth of their nesting or for numbers too long to
spell. A reader gives no endless values: of a loop it gives as much as is looked at, and where that
has no end, the text is too much. -/
structure Platform where
  readYaml : YamlReader
  exhausts : Role → String → Bool

inductive DecodeFault
  | json (fault : Json.Fault)
  | yaml (fault : ReaderFault)
  | exhausted
  deriving Repr, DecidableEq

namespace DecodeFault

def isOffence : DecodeFault → Bool
  | .json (.offence _ _ _ _) | .yaml (.offence _) => true
  | .json (.digits _) | .yaml (.raised _ _) | .exhausted => false

def cause : DecodeFault → Text
  | .json fault => fault.message
  | .yaml (.offence message) | .yaml (.raised _ message) => message
  | .exhausted => "maximum recursion depth exceeded"

def message (fault : DecodeFault) : Text :=
  if fault.isOffence then "Error parsing schema document: " ++ fault.cause else fault.cause

end DecodeFault

def decode (platform : Platform) (role : Role) (text : String) : Except DecodeFault Value :=
  if platform.exhausts role text then .error .exhausted
  else
    match role.format with
    | .json => (Json.decode text).mapError .json
    | .yaml => (platform.readYaml text).mapError .yaml

end DtoForge.Document
