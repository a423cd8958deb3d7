import DtoForge.Document.Spelling
import DtoForge.Schema.Basic

/-!
A schema that an example value satisfies. A list is typed by its first item, a key is required
when its example is not null, and whatever is neither a number nor a truth value counts as text.
-/

namespace DtoForge.Schema

open Document

def scalarKind : Scalar → PrimitiveKind
  | .bool _ => .boolean
  | .int _ => .integer
  | .float _ | .nan => .number
  | _ => .string

def exampleRequired (entries : Entries) : List Text :=
  nameSet ((entries.filter fun entry => !entry.2.isNull).map fun entry => entry.1.nameText)

mutual

def infer : Value → Schema
  | .map entries => .object (inferEntries entries) (exampleRequired entries)
  | .list [] => .array (.unknown none)
  | .list (first :: _) => .array (infer first)
  | .scalar value => .primitive (scalarKind value) none
  | .set _ | .pair _ _ => .primitive .string none

def inferEntries : List (Scalar × Value) → List (Text × Schema)
  | [] => []
  | (key, value) :: rest => (key.nameText, infer value) :: inferEntries rest

end

theorem infer_entries_names (entries : Entries) :
    (inferEntries entries).map (·.1) = entries.map fun entry => entry.1.nameText := by
  induction entries with
  | nil => rfl
  | cons entry rest induction => simp [inferEntries, induction]

end DtoForge.Schema
