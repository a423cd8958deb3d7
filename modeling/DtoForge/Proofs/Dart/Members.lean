import DtoForge.Proofs.Dart.Identifiers
import DtoForge.Proofs.Resolution.Portrait

/-!
The members of a class, read back from its lines: the final fields, and the method that converts the
object. Identifiers are kept apart from each other while a record is built, but not from the method,
so a class declares a member twice just if a property gives the name of the method. The lines are
read as they are written; a line end in a key does not make two of one.
-/

namespace DtoForge.Dart

/-! ### Reading -/

def fieldOpening : Text := "  final "

def methodOpening : Text := "  Map<String, dynamic> "

def methodClosing : Text := "(this);"

def lastWord (line : List CodePoint) : List CodePoint :=
  (line.reverse.takeWhile (· ≠ .char ' ')).reverse

/-- The member that a line declares. The name of a field stands before the semicolon, that of a
method before the parenthesis; a method here gives a map and hands the object on. -/
def memberOf? (line : Text) : Option Text :=
  let chars := line.toList
  if fieldOpening.toList <+: chars then some (Text.ofList (lastWord chars.dropLast))
  else if methodOpening.toList <+: chars ∧ methodClosing.toList <:+ chars then
    some (Text.ofList ((chars.drop methodOpening.toList.length).takeWhile (· ≠ .char '(')))
  else none

def memberNames (classSuffix : Text) (record : Record) : List Text :=
  (classLines classSuffix record).filterMap memberOf?

/-! ### The lines of a class -/

theorem last_word_behind (before : List CodePoint) {word : List CodePoint}
    (whole : CodePoint.char ' ' ∉ word) :
    lastWord (before ++ .char ' ' :: word) = word := by
  have blanks : ∀ c ∈ word.reverse, decide (c ≠ .char ' ') = true := by
    intro c held
    have differ : c ≠ .char ' ' := fun blank => whole (blank ▸ List.mem_reverse.mp held)
    simpa using differ
  rw [lastWord, List.reverse_append, List.reverse_cons, List.append_assoc,
    List.takeWhile_append_of_pos blanks, List.cons_append, List.takeWhile_cons_of_neg (by simp),
    List.append_nil, List.reverse_reverse]

theorem field_line_member (type : Text) {identifier : Text}
    (whole : CodePoint.char ' ' ∉ identifier.toList) :
    memberOf? ("  final " ++ type ++ " " ++ identifier ++ ";") = some identifier := by
  have cut : ("  final " ++ type ++ " " ++ identifier ++ ";").toList =
      fieldOpening.toList ++ type.toList ++ .char ' ' :: identifier.toList ++ [.char ';'] := by
    simp [fieldOpening, Text.to_list_append]
  have opened : fieldOpening.toList <+:
      fieldOpening.toList ++ type.toList ++ .char ' ' :: identifier.toList ++ [.char ';'] := by
    rw [List.append_assoc, List.append_assoc]
    exact List.prefix_append _ _
  unfold memberOf?
  dsimp only
  rw [cut, if_pos opened, List.dropLast_concat, last_word_behind _ whole]

theorem annotation_no_member (key : Text) :
    memberOf? ("  @JsonKey(name: \"" ++ escape key ++ "\")") = none := by
  simp [memberOf?, fieldOpening, methodOpening, Text.to_list_append]

theorem field_lines_member (classSuffix : Text) {field : Field}
    (whole : CodePoint.char ' ' ∉ field.identifier.toList) :
    (fieldLines classSuffix field).filterMap memberOf? = [field.identifier] := by
  have declared := field_line_member (fieldTypeText classSuffix field) whole
  unfold fieldLines
  dsimp only
  cases field.wireKey with
  | none => rw [List.filterMap_cons_some declared, List.filterMap_nil]
  | some key =>
      rw [List.filterMap_cons_none (annotation_no_member key), List.filterMap_cons_some declared,
        List.filterMap_nil]

theorem fields_members (classSuffix : Text) {fields : List Field}
    (whole : ∀ field ∈ fields, CodePoint.char ' ' ∉ field.identifier.toList) :
    (fields.flatMap (fieldLines classSuffix)).filterMap memberOf? = fields.map (·.identifier) := by
  induction fields with
  | nil => rfl
  | cons field rest induction =>
      obtain ⟨here, others⟩ := List.forall_mem_cons.mp whole
      rw [List.flatMap_cons, List.filterMap_append, field_lines_member classSuffix here,
        induction others]
      rfl

theorem constructor_end (name : Text) (fields : List Field) :
    ∃ before c, (constructorText name fields).toList = before ++ [c, .char ')', .char ';'] ∧
      c ≠ .char 's' := by
  unfold constructorText
  split
  · exact ⟨name.toList, .char '(', by simp [Text.to_list_append], by decide⟩
  · exact ⟨(name ++ "(\x7b" ++ Text.intercalate ", " (fields.map parameterText)).toList,
      .char '\x7d',
      by simp [Text.to_list_append], by decide⟩

theorem constructor_head {name : Text} (nonempty : name ≠ "") (fields : List Field) :
    (constructorText name fields).toList.head? = name.toList.head? := by
  have some : name.toList ≠ [] := fun empty => nonempty (Text.to_list_inj.mp empty)
  unfold constructorText
  split
  · rw [Text.to_list_append, List.head?_append_of_ne_nil _ some]
  · rw [Text.append_assoc, Text.append_assoc, Text.to_list_append,
      List.head?_append_of_ne_nil _ some]

theorem constructor_no_member {name : Text} (nonempty : name ≠ "")
    (capital : name.toList.head?.any Naming.isLower = false) (fields : List Field) :
    memberOf? ("  " ++ constructorText name fields) = none := by
  have unopened : ¬ fieldOpening.toList <+: ("  " ++ constructorText name fields).toList := by
    intro opened
    rw [← constructor_head nonempty fields] at capital
    cases shape : (constructorText name fields).toList with
    | nil => simp [fieldOpening, Text.to_list_append, shape] at opened
    | cons c rest =>
        simp [fieldOpening, Text.to_list_append, shape] at opened
        rw [shape, ← opened.1, List.head?_cons] at capital
        exact absurd capital (by decide)
  have unclosed : ¬ methodClosing.toList <:+ ("  " ++ constructorText name fields).toList := by
    obtain ⟨before, c, shape, differ⟩ := constructor_end name fields
    have ends : methodClosing.toList =
        ("(thi" : Text).toList ++ [.char 's', .char ')', .char ';'] := by decide
    rw [Text.to_list_append, shape]
    intro closed
    obtain ⟨front, same⟩ := closed
    rw [ends, ← List.append_assoc, ← List.append_assoc] at same
    have last := List.append_inj_right' same rfl
    simp [differ.symm] at last
  unfold memberOf?
  dsimp only
  rw [if_neg unopened, if_neg fun both => unclosed both.2]

theorem no_blank_of_plain {name : Text} (plain : Naming.Plain name) :
    CodePoint.char ' ' ∉ name.toList :=
  fun blank => absurd (plain.2 _ blank) (by decide)

def conversionName : Text := "toJson"

theorem method_line_member (name : Text) :
    memberOf? ("  Map<String, dynamic> toJson() => _$" ++ name ++ "ToJson(this);") =
      some conversionName := by
  have cut : ("  Map<String, dynamic> toJson() => _$" ++ name ++ "ToJson(this);").toList =
      methodOpening.toList ++ (conversionName.toList ++ .char '(' ::
        ((") => _$" : Text).toList ++ name.toList ++ ("ToJson" : Text).toList ++
          methodClosing.toList)) := by
    simp [methodOpening, methodClosing, conversionName, Text.to_list_append]
  have unlike (rest : List CodePoint) : ¬ fieldOpening.toList <+: methodOpening.toList ++ rest := by
    simp [fieldOpening, methodOpening]
  have closed (before : List CodePoint) : methodClosing.toList <:+ methodOpening.toList ++
      (conversionName.toList ++ .char '(' :: (before ++ methodClosing.toList)) := by
    rw [← List.cons_append, ← List.append_assoc, ← List.append_assoc]
    exact List.suffix_append _ _
  have letters : ∀ c ∈ conversionName.toList, decide (c ≠ .char '(') = true := by
    simp [conversionName]
  unfold memberOf?
  dsimp only
  rw [cut, if_neg (unlike _), if_pos ⟨List.prefix_append _ _, closed _⟩,
    List.drop_left, List.takeWhile_append_of_pos letters, List.takeWhile_cons_of_neg (by simp),
    List.append_nil]

theorem class_members (classSuffix : Text) {record : Record} (named : Naming.Plain record.name)
    (capital : record.name.toList.head?.any Naming.isLower = false)
    (plain : ∀ field ∈ record.fields, Naming.Plain field.identifier) :
    memberNames classSuffix record = record.fields.map (·.identifier) ++ [conversionName] := by
  have fields := fields_members classSuffix fun field held => no_blank_of_plain (plain field held)
  have nonempty := class_name_ne_empty named classSuffix
  have upper : (className record.name classSuffix).toList.head?.any Naming.isLower = false := by
    rw [className, named.head_append]
    exact capital
  have constructor := constructor_no_member nonempty upper record.fields
  have opening : [("@JsonSerializable(explicitToJson: true)" : Text),
      "class " ++ className record.name classSuffix ++ " \x7b"].filterMap memberOf? = [] := by
    simp [memberOf?, fieldOpening, methodOpening, Text.to_list_append]
  have separator : (if record.fields.isEmpty then [] else [("" : Text)]).filterMap memberOf? =
      [] := by
    cases record.fields.isEmpty with
    | true => rfl
    | false => decide
  have factory : memberOf? ("  factory " ++ className record.name classSuffix ++
      ".fromJson(Map<String, dynamic> json) => _$" ++ className record.name classSuffix ++
        "FromJson(json);") = none := by
    simp [memberOf?, fieldOpening, methodOpening, Text.to_list_append]
  have method := method_line_member (className record.name classSuffix)
  have blank : memberOf? "" = none := by decide
  have closing : memberOf? "\x7d" = none := by decide
  unfold memberNames classLines
  dsimp only
  rw [List.filterMap_append, List.filterMap_append, List.filterMap_append, opening, separator,
    fields,
    List.filterMap_cons_none constructor, List.filterMap_cons_none blank,
    List.filterMap_cons_none factory, List.filterMap_cons_some method,
    List.filterMap_cons_none closing,
    List.filterMap_nil, List.nil_append, List.append_nil]

/-! ### Resolved records -/

theorem identifier_given_iff {record : Record}
    (identified : ∀ field ∈ record.fields, field.Identified)
    (covered : ∀ field ∈ record.fields,
      Naming.fieldName field.property ∈ record.fields.map (·.identifier))
    {name : Text} (letters : name.toList.any Naming.isDigit = false) :
    name ∈ record.fields.map (·.identifier) ↔
      ∃ field ∈ record.fields, Naming.fieldName field.property = name := by
  constructor
  · intro held
    obtain ⟨field, listed, same⟩ := List.mem_map.mp held
    refine ⟨field, listed, ?_⟩
    rcases identified field listed with given | ⟨number, given⟩
    · rw [← given, same]
    · -- a number would put a digit into the name
      obtain ⟨c, inside, digit⟩ :=
        Naming.exists_digit_numbered (Naming.fieldName field.property) number
      rw [← given, same] at inside
      exact absurd digit (List.any_eq_false.mp letters c inside)
  · intro given
    obtain ⟨field, listed, same⟩ := given
    rw [← same]
    exact covered field listed

/-- The members that the class of a record declares: the identifiers, which are distinct, and the
method. They are distinct just if no property gives the name of the method. -/
structure MembersStand (classSuffix : Text) (record : Record) : Prop where
  members : memberNames classSuffix record =
    record.fields.map (·.identifier) ++ [conversionName]
  identifiers : (record.fields.map (·.identifier)).Nodup
  distinct : (memberNames classSuffix record).Nodup ↔
    ∀ field ∈ record.fields, Naming.fieldName field.property ≠ conversionName

theorem members_distinct_unless_to_json (context : Resolution.Context) (definitions : Definitions)
    (distinct : definitions.keys.Nodup) :
    ∃ graph notices, Resolution.graphOf context definitions = .ok (graph, notices) ∧
      ∀ record ∈ graph.records, ∀ classSuffix, MembersStand classSuffix record := by
  obtain ⟨graph, registry, notices, resolved, finished, names⟩ :=
    Resolution.resolve_graph_names context definitions distinct (type_named_law definitions)
  have built := Resolution.records_built_of_resolved distinct resolved
  refine ⟨graph, notices, by rw [Resolution.graphOf, resolved]; rfl, ?_⟩
  intro record held classSuffix
  obtain ⟨named, identified⟩ := names record held
  obtain ⟨pair, stored, recorded, -⟩ := finished.entry_of_record held
  have portrays := finished.record_portrays built stored recorded
  have covered := finished.identifiers_cover built stored recorded
  have members := class_members classSuffix named.plain named.capital fun field listed =>
    (field_named (identified field listed)).plain
  have letters : conversionName.toList.any Naming.isDigit = false := by decide
  have given := identifier_given_iff identified covered letters
  refine ⟨members, portrays.identifiers, ?_⟩
  rw [members, List.nodup_append]
  constructor
  · intro apart field listed same
    have clash := given.mpr ⟨field, listed, same⟩
    exact apart.2.2 _ clash _ List.mem_cons_self rfl
  · intro free
    refine ⟨portrays.identifiers, List.nodup_singleton _, ?_⟩
    intro identifier listed method single same
    rw [List.mem_singleton.mp single] at same
    rw [same] at listed
    obtain ⟨field, there, gives⟩ := given.mp listed
    exact free field there gives

def exportDefinitions : Definitions :=
  [("Export", .object
    [("to_json", .primitive .string none), ("ToJson", .primitive .boolean none),
      ("as-json", .primitive .string none)] ["ToJson"])]

theorem export_members_stand :
    exportDefinitions.keys.Nodup ∧
      ∃ graph notices, Resolution.graphOf ⟨.inline, 3⟩ exportDefinitions = .ok (graph, notices) ∧
        ∀ record ∈ graph.records, ∀ classSuffix, MembersStand classSuffix record :=
  ⟨by decide, members_distinct_unless_to_json ⟨.inline, 3⟩ exportDefinitions (by decide)⟩

/-- The first of the two takes the name that the method has as well, and only the second is
numbered. -/
theorem to_json_declared_twice :
    (Resolution.graphOf ⟨.inline, 3⟩ exportDefinitions).toOption.map (fun made =>
      made.1.records.map fun record => (memberNames "ResponseDto" record,
        decide (memberNames "ResponseDto" record).Nodup)) =
      some [([("toJson" : Text), "toJson2", "asJson", "toJson"], false)] := by
  decide +kernel

end DtoForge.Dart
