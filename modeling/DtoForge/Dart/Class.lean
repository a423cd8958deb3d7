import DtoForge.Naming
import DtoForge.Record

/-!
The Dart class of one record: an annotated class with final fields, a constructor, and the two
conversions that the serializer generates. A text is the concatenation of its lines, each with its
line end, and nothing is claimed about how Dart reads it.
-/

namespace DtoForge.Dart

def defaultClassSuffix : Text := "ResponseDto"

def defaultFileSuffix : Text := "_response_dto"

def className (recordName : Text) (classSuffix : Text) : Text := recordName ++ classSuffix

def scalarName : ScalarType → Text
  | .string => "String"
  | .integer => "int"
  | .number => "double"
  | .boolean => "bool"
  | .dateTime => "DateTime"

def mapName : Text := "Map<String, dynamic>"

def dynamicName : Text := "dynamic"

def typeText (classSuffix : Text) : FieldType → Text
  | .scalar kind => scalarName kind
  | .record name => className name classSuffix
  | .list item => "List<" ++ typeText classSuffix item ++ ">"
  | .map => mapName
  | .unknown => dynamicName

/-- A field that is not required is nullable; the dynamic type is so without a mark. -/
def fieldTypeText (classSuffix : Text) (field : Field) : Text :=
  let type := typeText classSuffix field.type
  if field.required || type == dynamicName then type else type ++ "?"

/-- Backslash, double quote and dollar sign are written with a backslash before them. -/
def escapePoints : List CodePoint → List CodePoint
  | [] => []
  | c :: rest =>
    if c = '\\' ∨ c = '"' ∨ c = '$' then .char '\\' :: c :: escapePoints rest
    else c :: escapePoints rest

def escape (text : Text) : Text := ⟨escapePoints text.toList⟩

def replacePoint (point : CodePoint) (replacement points : List CodePoint) : List CodePoint :=
  points.flatMap fun c => if c = point then replacement else [c]

/-- Escaping is three replacements one after the other. The backslash comes first: the backslashes
that the others put in are not escaped again. -/
theorem escape_points_eq_replaced (points : List CodePoint) :
    escapePoints points =
      replacePoint '$' ['\\', '$'] (replacePoint '"' ['\\', '"']
        (replacePoint '\\' ['\\', '\\'] points)) := by
  induction points with
  | nil => rfl
  | cons c rest induction =>
      by_cases special : c = '\\' ∨ c = '"' ∨ c = '$'
      · rcases special with rfl | rfl | rfl
        all_goals simp_all [escapePoints, replacePoint]
      · rw [not_or, not_or] at special
        simp_all [escapePoints, replacePoint]

def fieldLines (classSuffix : Text) (field : Field) : List Text :=
  let declaration := "  final " ++ fieldTypeText classSuffix field ++ " " ++ field.identifier ++ ";"
  match field.wireKey with
  | none => [declaration]
  | some key => ["  @JsonKey(name: \"" ++ escape key ++ "\")", declaration]

def parameterText (field : Field) : Text :=
  if field.required then "required this." ++ field.identifier else "this." ++ field.identifier

def constructorText (name : Text) (fields : List Field) : Text :=
  if fields.isEmpty then name ++ "();"
  else name ++ "(\x7b" ++ Text.intercalate ", " (fields.map parameterText) ++ "\x7d);"

def classLines (classSuffix : Text) (record : Record) : List Text :=
  let name := className record.name classSuffix
  let opening : List Text :=
    ["@JsonSerializable(explicitToJson: true)", "class " ++ name ++ " \x7b"]
  let gap : List Text := if record.fields.isEmpty then [] else [""]
  let closing : List Text :=
    ["  " ++ constructorText name record.fields,
      "",
      "  factory " ++ name ++ ".fromJson(Map<String, dynamic> json) => _$" ++ name ++
        "FromJson(json);",
      "  Map<String, dynamic> toJson() => _$" ++ name ++ "ToJson(this);",
      "\x7d"]
  opening ++ record.fields.flatMap (fieldLines classSuffix) ++ gap ++ closing

def classText (classSuffix : Text) (record : Record) : Text :=
  Text.intercalate "\n" (classLines classSuffix record) ++ "\n"

end DtoForge.Dart
