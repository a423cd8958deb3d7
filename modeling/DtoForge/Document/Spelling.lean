import DtoForge.Document.Value
import DtoForge.Text.Quoted

/-!
The text of decoded values. A scalar used as a name is written plainly (`nameText`); inside a
list or a mapping texts are quoted and dates are spelled out (`literal`).
-/

namespace DtoForge.Document

def Date.literal (date : Date) : String :=
  s!"datetime.date({date.year}, {date.month}, {date.day})"

/-- Trailing zero seconds and microseconds are left out. -/
def Moment.literal (moment : Moment) : String :=
  let parts := [moment.date.year, moment.date.month, moment.date.day, moment.hour, moment.minute] ++
    (if moment.second = 0 ∧ moment.microsecond = 0 then [] else [moment.second]) ++
    (if moment.microsecond = 0 then [] else [moment.microsecond])
  let zone :=
    match moment.offset with
    | none => []
    | some 0 => ["tzinfo=datetime.timezone.utc"]
    | some minutes => ["tzinfo=datetime.timezone(" ++ spanLiteral minutes ++ ")"]
  "datetime.datetime(" ++ ", ".intercalate (parts.map toString ++ zone) ++ ")"

def Scalar.nameText : Scalar → Text
  | .null => "None"
  | .bool value => if value then "True" else "False"
  | .int value => toString value
  | .float value => Decimal.floatText value
  | .nan => "nan"
  | .text value => value
  | .date value => value.text
  | .moment value => value.text
  | .bytes value => Text.quotedBytes value

def Scalar.literal : Scalar → Text
  | .text value => Text.quoted value
  | .date value => value.literal
  | .moment value => value.literal
  | scalar => scalar.nameText

mutual

def Value.literal : Value → Text
  | .scalar value => value.literal
  | .list items => "[" ++ Text.intercalate ", " (literals items) ++ "]"
  | .map entries => "\x7b" ++ Text.intercalate ", " (entryLiterals entries) ++ "\x7d"
  | .set [] => "set()"
  | .set members => "\x7b" ++ Text.intercalate ", " (members.map Scalar.literal) ++ "\x7d"
  | .pair first second => "(" ++ first.literal ++ ", " ++ second.literal ++ ")"

def literals : List Value → List Text
  | [] => []
  | value :: rest => value.literal :: literals rest

def entryLiterals : List (Scalar × Value) → List Text
  | [] => []
  | (key, value) :: rest => (key.literal ++ ": " ++ value.literal) :: entryLiterals rest

end

def Value.nameText : Value → Text
  | .scalar value => value.nameText
  | value => value.literal

end DtoForge.Document
