import DtoForge.Proofs.Dart.Literal
import DtoForge.Proofs.Dart.Members
import DtoForge.Proofs.Dart.TypeExpressions

/-!
The text of a class determines what it shows of its record: the name and, field by field, the
identifier, the type expression, whether the field is required, and the key. The text is cut from
the front, and each piece is known together with where it ends: a name ends at the first character
that no name has, a key at the first quote without a backslash before it, a declaration at the
semicolon. Where an expression does not tell whether its field is required, the constructor does.
Keys are arbitrary, line ends included.
-/

namespace DtoForge.Dart

/-! ### Pieces and where they end -/

theorem piece_cancel {kind : CodePoint → Prop} {left right rest other : List CodePoint}
    {c d : CodePoint}
    (leftKind : ∀ x ∈ left, kind x) (rightKind : ∀ x ∈ right, kind x) (leftEnd : ¬ kind c)
    (rightEnd : ¬ kind d) (same : left ++ c :: rest = right ++ d :: other) :
    left = right ∧ c = d ∧ rest = other := by
  induction left generalizing right with
  | nil =>
      cases right with
      | nil => exact ⟨rfl, List.cons.inj same⟩
      | cons y right =>
          rw [(List.cons.inj same).1] at leftEnd
          exact absurd (rightKind y List.mem_cons_self) leftEnd
  | cons x left induction =>
      obtain ⟨first, leftRest⟩ := List.forall_mem_cons.mp leftKind
      cases right with
      | nil =>
          rw [← (List.cons.inj same).1] at rightEnd
          exact absurd first rightEnd
      | cons y right =>
          obtain ⟨rfl, behind⟩ := List.cons.inj same
          obtain ⟨rfl, ends⟩ := induction leftRest (List.forall_mem_cons.mp rightKind).2 behind
          exact ⟨rfl, ends⟩

def escapedPoint (c : CodePoint) : List CodePoint :=
  if c = '\\' ∨ c = '"' ∨ c = '$' then [.char '\\', c] else [c]

theorem escape_points_cons (c : CodePoint) (rest : List CodePoint) :
    escapePoints (c :: rest) = escapedPoint c ++ escapePoints rest := by
  rw [escapePoints, escapedPoint]
  split
  · rfl
  · rfl

theorem escaped_point_cancel {c d : CodePoint} {rest other : List CodePoint}
    (same : escapedPoint c ++ rest = escapedPoint d ++ other) : c = d ∧ rest = other := by
  unfold escapedPoint at same
  split at same
  · split at same
    · simpa using same
    · rename_i ordinary
      simp only [List.cons_append, List.nil_append, List.cons.injEq] at same
      simp [← same.1] at ordinary
  · rename_i ordinary
    split at same
    · simp only [List.cons_append, List.nil_append, List.cons.injEq] at same
      simp [same.1] at ordinary
    · simpa using same

theorem escaped_point_ne_quote {c : CodePoint} {rest other : List CodePoint} :
    escapedPoint c ++ rest ≠ .char '"' :: other := by
  intro same
  unfold escapedPoint at same
  split at same
  · simp at same
  · rename_i ordinary
    simp only [List.cons_append, List.nil_append, List.cons.injEq] at same
    simp [same.1] at ordinary

theorem escape_points_cancel {left right rest other : List CodePoint}
    (same : escapePoints left ++ .char '"' :: rest = escapePoints right ++ .char '"' :: other) :
    left = right ∧ rest = other := by
  induction left generalizing right with
  | nil =>
      cases right with
      | nil => exact ⟨rfl, (List.cons.inj same).2⟩
      | cons d right =>
          rw [escape_points_cons, List.append_assoc] at same
          exact absurd same.symm escaped_point_ne_quote
  | cons c left induction =>
      cases right with
      | nil =>
          rw [escape_points_cons, List.append_assoc] at same
          exact absurd same escaped_point_ne_quote
      | cons d right =>
          rw [escape_points_cons, escape_points_cons, List.append_assoc, List.append_assoc] at same
          obtain ⟨rfl, behind⟩ := escaped_point_cancel same
          obtain ⟨rfl, ends⟩ := induction behind
          exact ⟨rfl, ends⟩

/-! ### What a class shows -/

structure ShownField where
  identifier : Text
  type : Text
  required : Bool
  wireKey : Option Text
  deriving Repr, DecidableEq

def shown (classSuffix : Text) (field : Field) : ShownField :=
  ⟨field.identifier, typeText classSuffix field.type, field.required, field.wireKey⟩

structure SpelledField (field : Field) : Prop where
  identifier : Naming.Plain field.identifier
  type : ∀ name ∈ field.type.recordName?, Naming.Plain name

structure Spelled (record : Record) : Prop where
  name : Naming.Plain record.name
  fields : ∀ field ∈ record.fields, SpelledField field

variable {classSuffix : Text}

/-! ### Declarations -/

theorem type_text_no_semicolon (suffix : Naming.IsStem classSuffix.toList) {type : FieldType}
    (spelled : ∀ name ∈ type.recordName?, Naming.Plain name) :
    CodePoint.char ';' ∉ (typeText classSuffix type).toList := by
  induction type with
  | scalar kind => cases kind <;> simp [typeText, scalarName]
  | record name =>
      intro semicolon
      exact absurd (class_name_stem (spelled name rfl) suffix _ semicolon) (by decide)
  | list item induction =>
      have inner := induction spelled
      simp [typeText, Text.to_list_append, inner]
  | map => simp [typeText, mapName]
  | unknown => simp [typeText, dynamicName]

theorem field_type_no_semicolon (suffix : Naming.IsStem classSuffix.toList) {field : Field}
    (spelled : SpelledField field) :
    CodePoint.char ';' ∉ (fieldTypeText classSuffix field).toList := by
  have none := type_text_no_semicolon suffix spelled.type
  unfold fieldTypeText
  dsimp only
  split
  · exact none
  · simp [Text.to_list_append, none]

theorem declaration_cancel {type otherType identifier otherIdentifier rest other : List CodePoint}
    (typeWhole : CodePoint.char ';' ∉ type) (otherTypeWhole : CodePoint.char ';' ∉ otherType)
    (word : Naming.IsWord identifier) (otherWord : Naming.IsWord otherIdentifier)
    (same : type ++ .char ' ' :: identifier ++ .char ';' :: rest =
      otherType ++ .char ' ' :: otherIdentifier ++ .char ';' :: other) :
    type = otherType ∧ identifier = otherIdentifier ∧ rest = other := by
  have foreign {chars : List CodePoint} (word : Naming.IsWord chars) {c : CodePoint}
      (separator : Naming.isWordChar c = false) : c ∉ chars := fun held => by
    rw [word.2 c held] at separator
    cases separator
  have whole {front chars : List CodePoint} (frontWhole : CodePoint.char ';' ∉ front)
      (word : Naming.IsWord chars) :
      ∀ c ∈ front ++ .char ' ' :: chars, c ≠ .char ';' := by
    rintro c held rfl
    simp [frontWhole, foreign word (c := .char ';') (by decide)] at held
  obtain ⟨declared, -, ends⟩ := piece_cancel (whole typeWhole word)
    (whole otherTypeWhole otherWord) (by simp) (by simp) same
  have names : identifier = otherIdentifier := by
    rw [← last_word_behind type (foreign word (by decide)), declared,
      last_word_behind otherType (foreign otherWord (by decide))]
  rw [names] at declared
  exact ⟨List.append_cancel_right declared, names, ends⟩

/-! ### Lines -/

def lineChars (lines : List Text) : List CodePoint :=
  lines.flatMap fun line => line.toList ++ [.char '\n']

theorem line_chars_append (front behind : List Text) :
    lineChars (front ++ behind) = lineChars front ++ lineChars behind :=
  List.flatMap_append

theorem intercalate_lines {lines : List Text} (some : lines ≠ []) :
    (Text.intercalate "\n" lines ++ "\n").toList = lineChars lines := by
  induction lines with
  | nil => exact absurd rfl some
  | cons line lines induction =>
      cases lines with
      | nil => simp [lineChars, Text.intercalate]
      | cons next lines =>
          have rest : next :: lines ≠ [] := List.cons_ne_nil next lines
          rw [Text.intercalate_cons _ _ rest, Text.append_assoc, Text.to_list_append,
            induction rest,
            Text.to_list_append]
          rfl

theorem field_lines_cut (classSuffix : Text) (field : Field) :
    fieldLines classSuffix field = field.wireKey.toList.map annotationLine ++
      [fieldOpening ++ fieldTypeText classSuffix field ++ " " ++ field.identifier ++ ";"] := by
  cases held : field.wireKey with
  | none =>
      rw [fieldLines, held]
      rfl
  | some key =>
      have keyed := field_lines_keyed classSuffix field key
      rw [← held] at keyed
      rw [keyed]
      rfl

theorem annotation_line_chars (key : Text) (rest : List CodePoint) :
    (annotationLine key).toList ++ rest =
      ("  @JsonKey(name: \"" : Text).toList ++
        (escapePoints key.toList ++ .char '"' :: .char ')' :: rest) := by
  simp [annotationLine, annotationOpening, Literal.quoted, escape, Text.to_list_append]

theorem key_cancel {left right : Option Text} {rest other : List CodePoint}
    (same : lineChars (left.toList.map annotationLine) ++ (fieldOpening.toList ++ rest) =
      lineChars (right.toList.map annotationLine) ++ (fieldOpening.toList ++ other)) :
    left = right ∧ rest = other := by
  cases left with
  | none =>
      cases right with
      | none => exact ⟨rfl, List.append_cancel_left (List.append_cancel_left same)⟩
      | some key => simp [lineChars, annotationLine, annotationOpening, fieldOpening] at same
  | some key =>
      cases right with
      | none => simp [lineChars, annotationLine, annotationOpening, fieldOpening] at same
      | some next =>
          simp only [Option.toList_some, List.map_singleton, lineChars, List.flatMap_singleton,
            List.append_assoc, annotation_line_chars] at same
          obtain ⟨keys, closed⟩ := escape_points_cancel (List.append_cancel_left same)
          have behind := (List.cons.inj (List.cons.inj closed).2).2
          exact ⟨congrArg some (Text.to_list_inj.mp keys), List.append_cancel_left behind⟩

/-! ### Fields -/

structure SameLines (classSuffix : Text) (left right : Field) : Prop where
  wireKey : left.wireKey = right.wireKey
  type : fieldTypeText classSuffix left = fieldTypeText classSuffix right
  identifier : left.identifier = right.identifier

theorem field_lines_chars (classSuffix : Text) (field : Field) (rest : List CodePoint) :
    lineChars (fieldLines classSuffix field) ++ rest =
      lineChars (field.wireKey.toList.map annotationLine) ++ (fieldOpening.toList ++
        ((fieldTypeText classSuffix field).toList ++ .char ' ' :: field.identifier.toList ++
          .char ';' :: .char '\n' :: rest)) := by
  rw [field_lines_cut, line_chars_append, List.append_assoc]
  simp [lineChars, Text.to_list_append]

theorem field_lines_cancel (suffix : Naming.IsStem classSuffix.toList) {left right : Field}
    (leftSpelled : SpelledField left) (rightSpelled : SpelledField right)
    {rest other : List CodePoint}
    (same : lineChars (fieldLines classSuffix left) ++ rest =
      lineChars (fieldLines classSuffix right) ++ other) :
    SameLines classSuffix left right ∧ rest = other := by
  rw [field_lines_chars, field_lines_chars] at same
  obtain ⟨keys, declarations⟩ := key_cancel same
  have leftWhole := field_type_no_semicolon suffix leftSpelled
  have rightWhole := field_type_no_semicolon suffix rightSpelled
  obtain ⟨types, identifiers, ends⟩ := declaration_cancel leftWhole rightWhole
    leftSpelled.identifier rightSpelled.identifier declarations
  exact ⟨⟨keys, Text.to_list_inj.mp types, Text.to_list_inj.mp identifiers⟩, (List.cons.inj ends).2⟩

def NoField (classSuffix : Text) (chars : List CodePoint) : Prop :=
  ∀ field rest, lineChars (fieldLines classSuffix field) ++ rest ≠ chars

theorem fields_chars_cons (classSuffix : Text) (field : Field) (fields : List Field)
    (rest : List CodePoint) :
    lineChars ((field :: fields).flatMap (fieldLines classSuffix)) ++ rest =
      lineChars (fieldLines classSuffix field) ++
        (lineChars (fields.flatMap (fieldLines classSuffix)) ++ rest) := by
  rw [List.flatMap_cons, line_chars_append, List.append_assoc]

theorem fields_cancel (suffix : Naming.IsStem classSuffix.toList) {left right : List Field}
    (leftSpelled : ∀ field ∈ left, SpelledField field)
    (rightSpelled : ∀ field ∈ right, SpelledField field) {rest other : List CodePoint}
    (leftEnd : NoField classSuffix rest) (rightEnd : NoField classSuffix other)
    (same : lineChars (left.flatMap (fieldLines classSuffix)) ++ rest =
      lineChars (right.flatMap (fieldLines classSuffix)) ++ other) :
    List.Forall₂ (SameLines classSuffix) left right ∧ rest = other := by
  induction left generalizing right with
  | nil =>
      cases right with
      | nil => exact ⟨.nil, same⟩
      | cons field right =>
          -- one list is at its end before the other, and a field would begin what stands behind it
          rw [fields_chars_cons] at same
          exact absurd same.symm (leftEnd field _)
  | cons field left induction =>
      obtain ⟨first, leftRest⟩ := List.forall_mem_cons.mp leftSpelled
      cases right with
      | nil =>
          rw [fields_chars_cons] at same
          exact absurd same (rightEnd field _)
      | cons next right =>
          obtain ⟨second, rightRest⟩ := List.forall_mem_cons.mp rightSpelled
          rw [fields_chars_cons, fields_chars_cons] at same
          obtain ⟨lines, behind⟩ := field_lines_cancel suffix first second same
          obtain ⟨fields, ends⟩ := induction leftRest rightRest behind
          exact ⟨.cons lines fields, ends⟩

/-! ### The constructor -/

theorem parameter_cancel {left right : Field} (identifier : left.identifier = right.identifier)
    {rest other : Text} (same : parameterText left ++ rest = parameterText right ++ other) :
    left.required = right.required ∧ rest = other := by
  have apart (name more others : Text) :
      "required this." ++ name ++ more ≠ "this." ++ name ++ others := by
    intro same
    have chars := congrArg Text.toList same
    simp [Text.to_list_append] at chars
  unfold parameterText at same
  rw [identifier] at same
  generalize left.required = required, right.required = otherRequired at same ⊢
  cases required with
  | true =>
      cases otherRequired with
      | true => exact ⟨rfl, (Text.append_right_inj _).mp same⟩
      | false => exact absurd same (apart _ _ _)
  | false =>
      cases otherRequired with
      | true => exact absurd same.symm (apart _ _ _)
      | false => exact ⟨rfl, (Text.append_right_inj _).mp same⟩

theorem dynamic_unmarked (type : Text) : dynamicName ≠ type ++ "?" := by
  intro same
  have last := congrArg (fun text => text.toList.getLast?) same
  simp [dynamicName, Text.to_list_append] at last

theorem SameLines.shown_eq {left right : Field} (lines : SameLines classSuffix left right)
    (required : left.required = right.required) :
    shown classSuffix left = shown classSuffix right := by
  have types : typeText classSuffix left.type = typeText classSuffix right.type := by
    have marked := lines.type
    simp only [fieldTypeText, required, Bool.or_eq_true, beq_iff_eq] at marked
    split at marked
    · split at marked
      · exact marked
      · rename_i bare unlike
        have dynamic := bare.resolve_left fun held => unlike (Or.inl held)
        exact absurd (dynamic ▸ marked) (dynamic_unmarked _)
    · split at marked
      · rename_i unlike bare
        have dynamic := bare.resolve_left fun held => unlike (Or.inl held)
        exact absurd (dynamic ▸ marked.symm) (dynamic_unmarked _)
      · exact (Text.append_left_inj _).mp marked
  simp only [shown, lines.identifier, types, required, lines.wireKey]

theorem shown_of_parameters {left right : List Field}
    (lines : List.Forall₂ (SameLines classSuffix) left right)
    (same : Text.intercalate ", " (left.map parameterText) =
      Text.intercalate ", " (right.map parameterText)) :
    left.map (shown classSuffix) = right.map (shown classSuffix) := by
  induction lines with
  | nil => rfl
  | @cons field next left right first rest induction =>
      cases rest with
      | nil =>
          rw [List.map_singleton, List.map_singleton, Text.intercalate, Text.intercalate,
            ← Text.append_empty (parameterText field), ← Text.append_empty (parameterText next)]
            at same
          obtain ⟨required, -⟩ := parameter_cancel first.identifier same
          exact congrArg₂ List.cons (first.shown_eq required) rfl
      | cons second rest =>
          simp only [List.map_cons, Text.intercalate, Text.append_assoc] at same
          obtain ⟨required, behind⟩ := parameter_cancel first.identifier same
          have others := induction ((Text.append_right_inj _).mp behind)
          exact congrArg₂ List.cons (first.shown_eq required) others

theorem empty_of_lines {left right : List Field}
    (lines : List.Forall₂ (SameLines classSuffix) left right) : left.isEmpty = right.isEmpty := by
  cases lines with
  | nil | cons => rfl

theorem constructor_cancel (name : Text) {left right : List Field}
    (lines : List.Forall₂ (SameLines classSuffix) left right)
    (same : constructorText name left = constructorText name right) :
    left.map (shown classSuffix) = right.map (shown classSuffix) := by
  cases lines with
  | nil => rfl
  | cons first rest =>
      refine shown_of_parameters (.cons first rest) ?_
      exact (Text.append_right_inj _).mp ((Text.append_left_inj _).mp same)

/-! ### Classes -/

/-- What stands behind the fields, up to a text that the name gives. -/
def closingChars (name : Text) (fields : List Field) (behind : List CodePoint) : List CodePoint :=
  (if fields.isEmpty then [] else [.char '\n']) ++ .char ' ' :: .char ' ' ::
    ((constructorText name fields).toList ++ behind)

theorem class_text_chars (classSuffix : Text) :
    ∃ behind : Text → List CodePoint, ∀ record, (classText classSuffix record).toList =
      ("@JsonSerializable(explicitToJson: true)\nclass " : Text).toList ++
        ((className record.name classSuffix).toList ++ .char ' ' :: .char '\x7b' :: .char '\n' ::
          (lineChars (record.fields.flatMap (fieldLines classSuffix)) ++
            closingChars (className record.name classSuffix) record.fields
              (behind (className record.name classSuffix)))) := by
  refine ⟨fun name => .char '\n' :: lineChars [("" : Text),
    "  factory " ++ name ++ ".fromJson(Map<String, dynamic> json) => _$" ++ name ++
      "FromJson(json);",
    "  Map<String, dynamic> toJson() => _$" ++ name ++ "ToJson(this);", "\x7d"], fun record => ?_⟩
  have some : classLines classSuffix record ≠ [] := by simp [classLines]
  have separator : lineChars (if record.fields.isEmpty then [] else [""]) =
      if record.fields.isEmpty then [] else [.char '\n'] := by
    cases record.fields.isEmpty <;> simp [lineChars]
  rw [classText, intercalate_lines some, classLines]
  dsimp only
  rw [line_chars_append, line_chars_append, line_chars_append, separator, closingChars]
  simp [lineChars, Text.to_list_append]

theorem field_opens (classSuffix : Text) (field : Field) (rest : List CodePoint) :
    ∃ word c more,
      lineChars (fieldLines classSuffix field) ++ rest =
        .char ' ' :: .char ' ' :: (word ++ c :: more) ∧
        Naming.IsStem word ∧ c ∈ [CodePoint.char '@', .char ' '] := by
  rw [field_lines_chars]
  cases field.wireKey with
  | none =>
      exact ⟨("final" : Text).toList, .char ' ', _, rfl, by decide, by simp⟩
  | some key =>
      refine ⟨[], .char '@', ?_⟩
      simp [Naming.IsStem, lineChars, annotation_line_chars]

theorem closing_no_field {name : Text} (stem : Naming.IsStem name.toList) (fields : List Field)
    (behind : List CodePoint) : NoField classSuffix (closingChars name fields behind) := by
  intro field rest same
  obtain ⟨word, c, more, opens, wordStem, foreign⟩ := field_opens classSuffix field rest
  rw [opens, closingChars] at same
  cases fields with
  | nil =>
      have parameters : (constructorText name []).toList ++ behind =
          name.toList ++ .char '(' :: .char ')' :: .char ';' :: behind := by
        simp [constructorText, Text.to_list_append]
      have constructor :
          word ++ c :: more = name.toList ++ .char '(' :: .char ')' :: .char ';' :: behind :=
        parameters ▸ (List.cons.inj (List.cons.inj same).2).2
      have apart : ¬ (Naming.isWordChar c = true ∨ c = .char '_') := by
        rcases List.mem_pair.mp foreign with rfl | rfl
        · decide
        · decide
      obtain ⟨-, rfl, -⟩ := piece_cancel wordStem stem apart (by decide) constructor
      exact absurd foreign (by decide)
  | cons field fields => simp at same

/-- The name is taken from the opening of the class, the fields from their lines, and what these
leave open from the constructor. -/
theorem shown_of_class_text (suffix : Naming.IsStem classSuffix.toList)
    {left right : Record} (leftSpelled : Spelled left) (rightSpelled : Spelled right)
    (same : classText classSuffix left = classText classSuffix right) :
    left.name = right.name ∧
      left.fields.map (shown classSuffix) = right.fields.map (shown classSuffix) := by
  obtain ⟨behind, chars⟩ := class_text_chars classSuffix
  have leftStem := class_name_stem leftSpelled.name suffix
  have rightStem := class_name_stem rightSpelled.name suffix
  rw [← Text.to_list_inj, chars, chars] at same
  obtain ⟨classes, -, opened⟩ := piece_cancel leftStem rightStem (by decide) (by decide)
    (List.append_cancel_left same)
  rw [Text.to_list_inj] at classes
  have fields := (List.cons.inj (List.cons.inj opened).2).2
  rw [classes] at fields
  obtain ⟨lines, closings⟩ := fields_cancel suffix leftSpelled.fields rightSpelled.fields
    (closing_no_field rightStem _ _) (closing_no_field rightStem _ _) fields
  rw [closingChars, closingChars, empty_of_lines lines] at closings
  have constructors := (List.cons.inj (List.cons.inj (List.append_cancel_left closings)).2).2
  refine ⟨(Text.append_left_inj _).mp classes, ?_⟩
  exact constructor_cancel _ lines (Text.to_list_inj.mp (List.append_cancel_right constructors))

theorem field_of_shown {left right : Field}
    (same : shown classSuffix left = shown classSuffix right) :
    fieldLines classSuffix left = fieldLines classSuffix right ∧
      parameterText left = parameterText right := by
  obtain ⟨identifier, type, required, wireKey⟩ := ShownField.mk.inj same
  simp only [fieldLines, fieldTypeText, parameterText, identifier, type, required, wireKey,
    and_self]

theorem fields_of_shown {left right : List Field}
    (same : left.map (shown classSuffix) = right.map (shown classSuffix)) :
    left.flatMap (fieldLines classSuffix) = right.flatMap (fieldLines classSuffix) ∧
      left.map parameterText = right.map parameterText := by
  induction left generalizing right with
  | nil =>
      rw [List.map_eq_nil_iff.mp same.symm]
      exact ⟨rfl, rfl⟩
  | cons field left induction =>
      obtain ⟨next, others, rfl, first, rest⟩ := List.map_eq_cons_iff.mp same.symm
      obtain ⟨lines, parameter⟩ := field_of_shown first
      obtain ⟨behind, parameters⟩ := induction rest.symm
      rw [List.flatMap_cons, List.flatMap_cons, List.map_cons, List.map_cons, lines, parameter,
        behind,
        parameters]
      exact ⟨rfl, rfl⟩

/-- Classes have one text just if they show the same: the name and, in order, the fields. -/
theorem class_text_eq_iff (suffix : Naming.IsStem classSuffix.toList) {left right : Record}
    (leftSpelled : Spelled left) (rightSpelled : Spelled right) :
    classText classSuffix left = classText classSuffix right ↔
      left.name = right.name ∧
        left.fields.map (shown classSuffix) = right.fields.map (shown classSuffix) := by
  constructor
  · exact shown_of_class_text suffix leftSpelled rightSpelled
  · rintro ⟨named, same⟩
    obtain ⟨lines, parameters⟩ := fields_of_shown same
    rw [classText, classText, classLines, classLines, named, lines, empty_of_parameters parameters,
      constructor_text_congr _ parameters]

def noteRecord : Record :=
  { name := "Note"
    fields :=
      [⟨"price\n$\"\\", "price", .list (.record "Money"), true, some "price\n$\"\\"⟩,
        ⟨"body", "body", .unknown, false, none⟩]
    signature := "", scope := none }

def memoRecord : Record :=
  { name := "Note"
    fields :=
      [⟨"Price", "price", .list (.record "Money"), true, some "price\n$\"\\"⟩,
        ⟨"Body", "body", .record "dynamic", false, none⟩]
    signature := "memo", scope := some "Order" }

theorem note_spelled : Spelled noteRecord where
  name := Naming.plain_of_all (by decide) (by decide)
  fields := by
    rintro field (_ | ⟨_, _ | ⟨_, ⟨⟩⟩⟩)
    · refine ⟨Naming.plain_of_all (by decide) (by decide), ?_⟩
      rintro name ⟨⟩
      exact Naming.plain_of_all (by decide) (by decide)
    · refine ⟨Naming.plain_of_all (by decide) (by decide), ?_⟩
      rintro name ⟨⟩

theorem memo_spelled : Spelled memoRecord where
  name := Naming.plain_of_all (by decide) (by decide)
  fields := by
    rintro field (_ | ⟨_, _ | ⟨_, ⟨⟩⟩⟩)
    all_goals
      refine ⟨Naming.plain_of_all (by decide) (by decide), ?_⟩
      rintro name ⟨⟩
      exact Naming.plain_of_all (by decide) (by decide)

theorem note_shown_as_memo :
    Naming.IsStem ("" : Text).toList ∧ Spelled noteRecord ∧ Spelled memoRecord ∧
      classText "" noteRecord = classText "" memoRecord ∧
        noteRecord.fields.map (shown "") = memoRecord.fields.map (shown "") := by
  have bare : Naming.IsStem ("" : Text).toList := by decide
  have same : classText "" noteRecord = classText "" memoRecord := by decide +kernel
  exact ⟨bare, note_spelled, memo_spelled, same,
    ((class_text_eq_iff bare note_spelled memo_spelled).mp same).2⟩

end DtoForge.Dart
