import DtoForge.Document.Calendar
import DtoForge.Text.Basic

/-!
Why a YAML text gives no value. All offences against the language itself are one cause; besides
there are scalars whose content does not suit the type that their tag asks for, and nodes that
hold themselves, which have no finite value.
-/

namespace DtoForge.Document.Yaml

inductive Fault
  | malformed
  | calendar (fault : CalendarFault)
  | timestamp
  | integer (base : Nat) (text : Text)
  | digits (count : Nat)
  | float (text : Text)
  | noNumber
  | truth (word : Text)
  | codePoint
  | endless
  deriving Repr, DecidableEq

end DtoForge.Document.Yaml
