import DtoForge.Document.Yaml.Fault

/-!
The tokens of a YAML text. The indentation of block collections is given by explicit start and end
tokens. A text that cannot be cut into tokens up to its end has a broken token as its last one.
-/

namespace DtoForge.Document.Yaml

inductive Directive
  | version (major : Nat)
  | tagPrefix (handle value : String)
  | reserved
  deriving Repr, DecidableEq

/-- A tag as written: a handle, unless the tag is verbatim or stands alone, and the rest. -/
structure TagName where
  handle : Option String
  rest : String
  deriving Repr, DecidableEq

inductive Token
  | directive (directive : Directive)
  | documentStart
  | documentEnd
  | blockSequenceStart
  | blockMappingStart
  | blockEnd
  | flowSequenceStart
  | flowSequenceEnd
  | flowMappingStart
  | flowMappingEnd
  | blockEntry
  | flowEntry
  | key
  | value
  | reference (name : String)
  | anchor (name : String)
  | tag (name : TagName)
  | scalar (text : Text) (plain : Bool)
  | streamEnd
  | broken (fault : Fault)
  deriving Repr, DecidableEq

end DtoForge.Document.Yaml
