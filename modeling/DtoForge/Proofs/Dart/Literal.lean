import DtoForge.Dart.Class
import DtoForge.Document.Json
import DtoForge.Proofs.Dart.Header
import DtoForge.Proofs.Resolution.Coherence
import DtoForge.Proofs.Text.Units

/-!
The key annotations of a class, read as literals of Dart. A literal on one line stands between
double quotes; a dollar sign or a line end in it is an error unless an escape takes it in, and its
value is a sequence of UTF-16 units. Keys are written so that they are read back, but line ends are
not escaped: a key with a line end gives no literal at all. Only the annotations are read here, not
the classes.
-/

namespace DtoForge.Dart

namespace Literal

/-! ### Reading -/

def isLineEnd (c : CodePoint) : Bool := c = '\n' || c = '\r'

/-- What an escape of a single character stands for, mostly the character itself. -/
def escapedPoint (c : CodePoint) : CodePoint :=
  match c with
  | .char 'n' => '\n'
  | .char 'r' => '\r'
  | .char 'f' => '\x0c'
  | .char 'b' => '\x08'
  | .char 't' => '\t'
  | .char 'v' => '\x0b'
  | _ => c

def hexValue? (c : CodePoint) : Option Nat := c.char?.bind Document.Json.hexValue?

/-- Where in a literal a character stands: outside of escapes, after the backslash, before the last
digits of a code, after the letter of a code, inside the braces of a code. -/
inductive Mode
  | plain
  | escaped
  | digits (left value : Nat)
  | unicode
  | braced (digits value : Nat)
  deriving Repr, DecidableEq

/-- The mode after a character and the units that are complete with it. -/
def next : Mode → CodePoint → Option (Mode × List Nat)
  | .plain, c =>
    if c = '\\' then some (.escaped, [])
    else if isLineEnd c || c = '$' then none
    else some (.plain, c.units)
  | .escaped, c =>
    if isLineEnd c then none
    else if c = 'x' then some (.digits 2 0, [])
    else if c = 'u' then some (.unicode, [])
    else some (.plain, (escapedPoint c).units)
  | .digits left value, c => do
    let digit ← hexValue? c
    if left ≤ 1 then return (.plain, [value * 16 + digit])
    else return (.digits (left - 1) (value * 16 + digit), [])
  | .unicode, c =>
    if c = '\x7b' then some (.braced 0 0, [])
    else (hexValue? c).map fun digit => (.digits 3 digit, [])
  | .braced digits value, c =>
    if c = '\x7d' then
      if digits = 0 ∨ 0x10ffff < value then none
      else some (.plain, (CodePoint.ofNat value).units)
    else
      ((hexValue? c).filter fun _ => digits < 6).map fun digit =>
        (.braced (digits + 1) (value * 16 + digit), [])

def body : Mode → List CodePoint → Option (List Nat × List CodePoint)
  | _, [] => none
  | mode, c :: rest =>
    if mode = .plain ∧ c = '"' then some ([], rest)
    else do
      let (mode, read) ← next mode c
      let (later, rest) ← body mode rest
      return (read ++ later, rest)

/-- The value of the literal that starts a text, and what follows the literal. -/
def read? : List CodePoint → Option (List Nat × List CodePoint)
  | .char '"' :: rest => body .plain rest
  | _ => none

example : read? ("\"\\$a\\x41\\u\x7b1f600\x7d\") b" : Text).toList =
    some ([0x24, 0x61, 0x41, 0xd83d, 0xde00], (") b" : Text).toList) := by
  decide +kernel

/-! ### What is written is read -/

variable {mode after : Mode} {c : CodePoint} {read : List Nat} (rest : List CodePoint)

theorem body_step (inside : ¬ (mode = .plain ∧ c = '"'))
    (taken : next mode c = some (after, read)) :
    body mode (c :: rest) = (body after rest).map fun more => (read ++ more.1, more.2) := by
  rw [body, if_neg inside, taken, Option.bind_eq_bind, Option.bind_some]
  dsimp only
  cases body after rest with
  | none => rfl
  | some more => rfl

theorem body_refused (inside : ¬ (mode = .plain ∧ c = '"')) (refused : next mode c = none) :
    body mode (c :: rest) = none := by
  rw [body, if_neg inside, refused]
  rfl

theorem body_escaped (special : c = '\\' ∨ c = '"' ∨ c = '$') :
    body .plain (.char '\\' :: c :: rest) =
      (body .plain rest).map fun more => (c.units ++ more.1, more.2) := by
  have second : next .escaped c = some (.plain, c.units) := by
    rcases special with rfl | rfl | rfl
    · rfl
    · rfl
    · rfl
  rw [body_step _ (by decide) rfl, body_step _ (by simp) second]
  cases body .plain rest with
  | none => rfl
  | some more => rfl

theorem body_plain (ordinary : ¬ (c = '\\' ∨ c = '"' ∨ c = '$')) :
    body .plain (c :: rest) =
      if isLineEnd c then none
      else (body .plain rest).map fun more => (c.units ++ more.1, more.2) := by
  rw [not_or, not_or] at ordinary
  obtain ⟨noBackslash, noQuote, noDollar⟩ := ordinary
  have inside : ¬ (Mode.plain = .plain ∧ c = '"') := fun quote => noQuote quote.2
  cases ends : isLineEnd c with
  | true => exact body_refused rest inside (by rw [next, if_neg noBackslash, ends]; rfl)
  | false =>
      refine body_step rest inside ?_
      rw [next, if_neg noBackslash, ends, if_neg (by simpa using noDollar)]

/-- Escaped characters are read back up to the closing quote, unless there is a line end among
them. -/
theorem body_escape_points (points : List CodePoint) :
    body .plain (escapePoints points ++ .char '"' :: rest) =
      if points.any isLineEnd then none else some (points.flatMap CodePoint.units, rest) := by
  induction points with
  | nil => rfl
  | cons c points induction =>
      rw [escapePoints, List.any_cons, List.flatMap_cons]
      by_cases special : c = '\\' ∨ c = '"' ∨ c = '$'
      · have noEnd : isLineEnd c = false := by
          rcases special with rfl | rfl | rfl
          · rfl
          · rfl
          · rfl
        rw [if_pos special, List.cons_append, List.cons_append, body_escaped _ special, induction,
          noEnd, Bool.false_or]
        cases points.any isLineEnd with
        | true => rfl
        | false => rfl
      · rw [if_neg special, List.cons_append, body_plain _ special, induction]
        cases isLineEnd c with
        | true => rfl
        | false =>
            rw [Bool.false_or]
            cases points.any isLineEnd with
            | true => rfl
            | false => rfl

def quoted (text : Text) : Text := "\"" ++ escape text ++ "\""

/-- A quoted text is read back, and the reading ends where the text ends; a line end in it, and
nothing else, makes it no literal. -/
theorem read_quoted (text after : Text) :
    read? (quoted text ++ after).toList =
      if text.toList.any isLineEnd then none else some (text.units, after.toList) := by
  have shape : (quoted text ++ after).toList =
      .char '"' :: (escapePoints text.toList ++ .char '"' :: after.toList) := by
    simp [quoted, escape]
  rw [shape, read?, body_escape_points, Text.units]

end Literal

/-! ### Annotations in a class -/

def annotationOpening : Text := "  @JsonKey(name: "

def annotationLine (key : Text) : Text := annotationOpening ++ Literal.quoted key ++ ")"

theorem field_lines_keyed (classSuffix : Text) (field : Field) (key : Text) :
    fieldLines classSuffix { field with wireKey := some key } =
      [annotationLine key,
        "  final " ++ fieldTypeText classSuffix field ++ " " ++ field.identifier ++ ";"] := by
  have line : "  @JsonKey(name: \"" ++ escape key ++ "\")" = annotationLine key := by
    rw [← Text.to_list_inj]
    simp [annotationLine, annotationOpening, Literal.quoted, Text.to_list_append]
  rw [fieldLines]
  dsimp only
  rw [line]
  rfl

theorem empty_of_parameters {fields others : List Field}
    (same : fields.map parameterText = others.map parameterText) :
    fields.isEmpty = others.isEmpty := by
  rw [← List.isEmpty_map, same, List.isEmpty_map]

theorem constructor_text_congr (name : Text) {fields others : List Field}
    (same : fields.map parameterText = others.map parameterText) :
    constructorText name fields = constructorText name others := by
  rw [constructorText, constructorText, same, empty_of_parameters same]

theorem class_lines_cut (classSuffix : Text) (record : Record) :
    ∃ opening, ∃ closing : List Field → List Text,
      (∀ fields, classLines classSuffix { record with fields } =
        opening ++ fields.flatMap (fieldLines classSuffix) ++ closing fields) ∧
      ∀ fields others, fields.map parameterText = others.map parameterText →
        closing fields = closing others := by
  unfold classLines
  dsimp only
  refine ⟨_, _, fun fields => List.append_assoc _ _ _, fun fields others same => ?_⟩
  rw [empty_of_parameters same, constructor_text_congr _ same]

/-- Some record whose fields are cut at one of them, which has a key. -/
def keyed (record : Record) (earlier : List Field) (field : Field) (later : List Field)
    (key : Text) : Record :=
  { record with fields := earlier ++ { field with wireKey := some key } :: later }

theorem class_lines_keyed (classSuffix : Text) (record : Record) (earlier : List Field)
    (field : Field) (later : List Field) :
    ∃ before after, after ≠ [] ∧ ∀ key,
      classLines classSuffix (keyed record earlier field later key) =
        before ++ annotationLine key :: after := by
  obtain ⟨opening, closing, cut, agree⟩ := class_lines_cut classSuffix record
  refine ⟨opening ++ earlier.flatMap (fieldLines classSuffix),
    ("  final " ++ fieldTypeText classSuffix field ++ " " ++ field.identifier ++ ";") ::
      (later.flatMap (fieldLines classSuffix) ++ closing (earlier ++ field :: later)),
    List.cons_ne_nil _ _, fun key => ?_⟩
  have closed : closing (earlier ++ { field with wireKey := some key } :: later) =
      closing (earlier ++ field :: later) := by
    refine agree _ _ ?_
    rw [List.map_append, List.map_append, List.map_cons, List.map_cons]
    rfl
  rw [keyed, cut, closed, List.flatMap_append, List.flatMap_cons, field_lines_keyed]
  simp only [List.append_assoc, List.cons_append, List.nil_append]

theorem intercalate_before (before : List Text) {lines : List Text} (some : lines ≠ []) :
    Text.intercalate "\n" (before ++ lines) =
      Text.join (before.map (· ++ "\n")) ++ Text.intercalate "\n" lines := by
  induction before with
  | nil => rfl
  | cons line before induction =>
      have rest : before ++ lines ≠ [] := List.append_ne_nil_of_right_ne_nil before some
      rw [List.cons_append, Text.intercalate_cons _ _ rest, induction, List.map_cons, Text.join]
      simp only [Text.append_assoc]

/-- The text of a class up to a key and after it, which are the same for all keys. -/
theorem class_text_keyed (classSuffix : Text) (record : Record) (earlier : List Field)
    (field : Field) (later : List Field) :
    ∃ start rest, ∀ key, classText classSuffix (keyed record earlier field later key) =
      start ++ annotationOpening ++ (Literal.quoted key ++ (")\n" ++ rest)) := by
  obtain ⟨before, after, nonempty, lines⟩ :=
    class_lines_keyed classSuffix record earlier field later
  refine ⟨Text.join (before.map (· ++ "\n")), Text.intercalate "\n" after ++ "\n", fun key => ?_⟩
  have closed : (")\n" : Text) = ")" ++ "\n" := rfl
  rw [classText, lines, intercalate_before before (List.cons_ne_nil _ _),
    Text.intercalate_cons _ _ nonempty, annotationLine, closed]
  simp only [Text.append_assoc]

/-! ### Resolved records -/

theorem mirrored_key {context : Resolution.Context} {entry : Entry} {registry : Registry}
    {property : Text × Schema} {field : Field} {key : Text}
    (mirrors : Resolution.FieldMirrors context entry registry property field)
    (keyed : field.wireKey = some key) : key = field.property := by
  have dataKey := mirrors.dataKey
  rw [Field.dataKey, keyed, Option.getD_some] at dataKey
  rw [dataKey, mirrors.propertyName]

/-- How a class has the key of a field that stands between others: as a literal whose value is the
key in UTF-16, unless the key contains a line end, and with text around it that depends on no
key. -/
def KeyStands (classSuffix : Text) (record : Record) (earlier : List Field) (field : Field)
    (later : List Field) (key : Text) : Prop :=
  ∃ start rest,
    classText classSuffix record =
      start ++ annotationOpening ++ (Literal.quoted key ++ (")\n" ++ rest)) ∧
    (∀ other, classText classSuffix (keyed record earlier field later other) =
      start ++ annotationOpening ++ (Literal.quoted other ++ (")\n" ++ rest))) ∧
    Literal.read? (Literal.quoted key ++ (")\n" ++ rest)).toList =
      (if key.toList.any Literal.isLineEnd then none
        else some (key.units, (")\n" ++ rest).toList)) ∧
    ∀ other : Text, other.PairFree → key.PairFree → other.units = key.units → other = key

/-- The keys of resolved records are names of properties, and classes have them as literals that are
read back wherever they contain no line end. -/
theorem keys_read_back_unless_line_end (context : Resolution.Context) (definitions : Definitions)
    (distinct : definitions.keys.Nodup) (classSuffix : Text) :
    ∃ graph notices, Resolution.graphOf context definitions = .ok (graph, notices) ∧
      ∀ record ∈ graph.records, ∀ earlier field later, record.fields = earlier ++ field :: later →
        ∀ key, field.wireKey = some key →
          key = field.property ∧ KeyStands classSuffix record earlier field later key := by
  obtain ⟨graph, registry, notices, resolved, finished⟩ :=
    Resolution.resolve_graph_finishes context definitions distinct
  refine ⟨graph, notices, by rw [Resolution.graphOf, resolved]; rfl, ?_⟩
  intro record held earlier field later cut key there
  obtain ⟨pair, -, -, mirrors⟩ := finished.entry_of_record held
  have listed : field ∈ record.fields := by
    rw [cut]
    exact List.mem_append_right _ List.mem_cons_self
  obtain ⟨property, -, mirrored⟩ := mirrors.property_of_field listed
  obtain ⟨start, rest, texts⟩ := class_text_keyed classSuffix record earlier field later
  have same : keyed record earlier field later key = record := by
    rw [keyed, ← there, ← cut]
  refine ⟨mirrored_key mirrored there, start, rest, ?_, texts, Literal.read_quoted key _, ?_⟩
  · rw [← texts key, same]
  · exact fun other => Text.units_inj

def priceDefinitions : Definitions :=
  [("Price", .object
    [("$amount\"", .primitive .integer none), ("\\unit\\", .primitive .string none),
      ("a\nb", .primitive .string none)] [])]

theorem price_keys_read_back :
    priceDefinitions.keys.Nodup ∧
      ∃ graph notices, Resolution.graphOf ⟨.promote, 3⟩ priceDefinitions = .ok (graph, notices) ∧
        ∀ record ∈ graph.records, ∀ earlier field later,
          record.fields = earlier ++ field :: later → ∀ key, field.wireKey = some key →
            key = field.property ∧ KeyStands "Dto" record earlier field later key := by
  have distinct : priceDefinitions.keys.Nodup := by decide
  exact ⟨distinct, keys_read_back_unless_line_end ⟨.promote, 3⟩ priceDefinitions distinct "Dto"⟩

/-- A key with a line feed gives no literal, those with escaped characters do. -/
theorem line_feed_breaks_literal :
    (Resolution.graphOf ⟨.promote, 3⟩ priceDefinitions).toOption.map (fun made =>
      made.1.records.flatMap fun record => record.fields.map fun field => (field.wireKey,
        (Literal.read? (Literal.quoted field.dataKey ++ ")\n").toList).isSome)) =
      some [(some ("$amount\"" : Text), true), (some ("\\unit\\" : Text), true),
        (some ("a\nb" : Text), false)] := by
  decide +kernel

end DtoForge.Dart
