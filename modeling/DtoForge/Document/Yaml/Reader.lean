import DtoForge.Document.Decoding
import DtoForge.Document.Yaml.Decoding
import DtoForge.Text.Quoted

/-!
The reader of YAML texts with its faults as they are reported. The wording of an offence against
the language is left open. An empty list stands for a loop, so a configuration is read without its
loops, and a document with a loop is too much, also where nothing would look at it.
-/

namespace DtoForge.Document

namespace Yaml

def Fault.report : Fault → ReaderFault
  | .malformed => .offence "<yaml error>"
  | .calendar fault => .raised "ValueError" fault.message
  | .timestamp => .raised "AttributeError" "'NoneType' object has no attribute 'groupdict'"
  | .integer base text =>
    .raised "ValueError"
      ("invalid literal for int() with base " ++ toString base ++ ": " ++ text.quoted)
  | .digits count => .raised "ValueError" (Text.digitLimitMessage count)
  | .float text => .raised "ValueError" ("could not convert string to float: " ++ text.quoted)
  | .noNumber => .raised "IndexError" "string index out of range"
  | .truth word => .raised "KeyError" word
  | .codePoint => .raised "ValueError" "chr() arg not in range(0x110000)"
  | .endless => .raised "RecursionError" "maximum recursion depth exceeded"

def read : YamlReader := fun text => (decode text).mapError Fault.report

end Yaml

/-- The platform with this reader. A text that is too much but for a loop ends the program by
itself. -/
def Platform.standard : Platform where
  readYaml := Yaml.read
  exhausts
    | .document .yaml, text => Yaml.isEndless text
    | .document .json, _ | .configuration, _ => false

end DtoForge.Document
