import DtoForge.Proofs.Dart.Units
import DtoForge.Proofs.Naming.Opening
import DtoForge.Proofs.Resolution.Identifiers
import DtoForge.Proofs.Resolution.Output

/-!
Which names in the generated classes are Dart identifiers. All of them are made of ASCII letters,
digits and underscores, and no class goes by a reserved word. A digit at the front of a key or of a
property is kept, though, and so is a reserved word that a property gives; these are the only ways
in which a name fails to be an identifier.
-/

namespace DtoForge.Dart

/-- The words that are never identifiers in Dart. -/
def reservedWords : List Text :=
  List.map Text.ofString
    ["assert", "break", "case", "catch", "class", "const", "continue", "default", "do", "else",
      "enum", "extends", "false", "final", "finally", "for", "if", "in", "is", "new", "null",
      "rethrow", "return", "super", "switch", "this", "throw", "true", "try", "var", "void",
      "while", "with"]

/-- An identifier without dollar signs. -/
structure IsIdentifier (name : Text) : Prop where
  nonempty : name ≠ ""
  spelled : Naming.IsStem name.toList
  opening : name.toList.head?.any Naming.isDigit = false
  unreserved : name ∉ reservedWords

instance (name : Text) : Decidable (IsIdentifier name) :=
  decidable_of_iff (name ≠ "" ∧ Naming.IsStem name.toList ∧
      name.toList.head?.any Naming.isDigit = false ∧ name ∉ reservedWords)
    ⟨fun ⟨nonempty, spelled, opening, unreserved⟩ => ⟨nonempty, spelled, opening, unreserved⟩,
      fun legal => ⟨legal.nonempty, legal.spelled, legal.opening, legal.unreserved⟩⟩

theorem reserved_words_spelled : ∀ word ∈ reservedWords,
    word.toList.head?.any Naming.isLower = true ∧ word.toList.any Naming.isDigit = false := by
  decide +kernel

theorem not_reserved_of_capital {name : Text}
    (capital : name.toList.head?.any Naming.isLower = false) : name ∉ reservedWords := by
  intro reserved
  rw [(reserved_words_spelled name reserved).1] at capital
  cases capital

theorem numbered_not_reserved (name : Text) (number : Nat) :
    Naming.numbered name number ∉ reservedWords := by
  intro reserved
  obtain ⟨c, held, digit⟩ := Naming.exists_digit_numbered name number
  exact List.any_eq_false.mp (reserved_words_spelled _ reserved).2 c held digit

/-! ### Classes -/

structure TypeNamed (definitions : Definitions) (name : Text) : Prop where
  plain : Naming.Plain name
  capital : name.toList.head?.any Naming.isLower = false
  origin : ∃ raw, definitions.Mentions raw ∧
    Naming.opensWithDigit name = Naming.opensWithDigit raw

/-- Text behind a type name leaves everything as it is. -/
theorem TypeNamed.append {definitions : Definitions} {name : Text}
    (named : TypeNamed definitions name) {more : Text}
    (after : ∀ c ∈ more.toList, Naming.isWordChar c = true) :
    TypeNamed definitions (name ++ more) where
  plain := named.plain.append after
  capital := by
    rw [named.plain.head_append]
    exact named.capital
  origin := by
    rw [named.plain.opens_with_digit_append after]
    exact named.origin

theorem type_named_law (definitions : Definitions) :
    Resolution.NameLaw definitions.Mentions (TypeNamed definitions) where
  typed := fun raw mentioned =>
    ⟨Naming.type_name_plain raw, Naming.type_name_capital raw, raw, mentioned,
      Naming.type_name_opens_with_digit raw⟩
  positional := fun mentioned number => by
    have start : TypeNamed definitions "InlineRecord" :=
      ⟨Naming.plain_of_all (by decide) (by decide), by decide, "", mentioned, by decide⟩
    exact start.append (Naming.digits_plain number)
  qualified := fun _ _ qualifier name => qualifier.append name.plain.2
  numbered := fun _ number named => named.append (Naming.digits_plain number)

theorem class_name_ne_empty {name : Text} (plain : Naming.Plain name) (classSuffix : Text) :
    className name classSuffix ≠ "" := by
  intro empty
  have points := congrArg Text.toList empty
  rw [className, Text.to_list_append] at points
  exact plain.1 (List.append_eq_nil_iff.mp points).1

/-- A class name fails to be an identifier just if the name of its record opens with a digit, which
some key or some property does then. -/
structure ClassNamed (definitions : Definitions) (classSuffix recordName : Text) : Prop where
  nonempty : className recordName classSuffix ≠ ""
  spelled : Naming.IsStem (className recordName classSuffix).toList
  unreserved : className recordName classSuffix ∉ reservedWords
  legal : IsIdentifier (className recordName classSuffix) ↔
    Naming.opensWithDigit recordName = false
  origin : ∃ raw, definitions.Mentions raw ∧
    Naming.opensWithDigit recordName = Naming.opensWithDigit raw

theorem TypeNamed.class_named {definitions : Definitions} {name : Text}
    (named : TypeNamed definitions name) {classSuffix : Text}
    (suffix : Naming.IsStem classSuffix.toList) : ClassNamed definitions classSuffix name := by
  have head := named.plain.head_append classSuffix
  have nonempty := class_name_ne_empty named.plain classSuffix
  have spelled : Naming.IsStem (className name classSuffix).toList := by
    rw [className, Text.to_list_append]
    exact List.forall_mem_append.mpr ⟨named.plain.stem, suffix⟩
  have unreserved : className name classSuffix ∉ reservedWords := by
    apply not_reserved_of_capital
    rw [className, head]
    exact named.capital
  have opening : (className name classSuffix).toList.head?.any Naming.isDigit =
      Naming.opensWithDigit name := by
    rw [className, head, named.plain.opens_with_digit]
  refine ⟨nonempty, spelled, unreserved, ?_, named.origin⟩
  constructor
  · intro legal
    exact opening.symm.trans legal.opening
  · intro letter
    exact ⟨nonempty, spelled, opening.trans letter, unreserved⟩

/-! ### Fields -/

/-- The identifier of a field can only fail by a digit in front of the property, or by being a
reserved word, which no number stands behind then. -/
structure FieldNamed (field : Field) : Prop where
  plain : Naming.Plain field.identifier
  reserved : field.identifier ∈ reservedWords → field.identifier = Naming.fieldName field.property
  legal : IsIdentifier field.identifier ↔
    Naming.opensWithDigit field.property = false ∧ field.identifier ∉ reservedWords

theorem field_named {field : Field} (identified : field.Identified) : FieldNamed field := by
  have start := Naming.field_name_plain field.property
  have made : Naming.Plain field.identifier ∧ Naming.opensWithDigit field.identifier =
      Naming.opensWithDigit (Naming.fieldName field.property) := by
    rcases identified with same | ⟨number, same⟩
    · rw [same]
      exact ⟨start, rfl⟩
    · rw [same]
      exact ⟨start.append (Naming.digits_plain number),
        Naming.numbered_opens_with_digit start number⟩
  obtain ⟨plain, same⟩ := made
  have opening : field.identifier.toList.head?.any Naming.isDigit =
      Naming.opensWithDigit field.property := by
    rw [← plain.opens_with_digit, same, Naming.field_name_opens_with_digit]
  refine ⟨plain, ?_, ?_⟩
  · intro reserved
    refine identified.resolve_right ?_
    rintro ⟨number, same⟩
    rw [same] at reserved
    exact numbered_not_reserved _ number reserved
  constructor
  · intro legal
    exact ⟨opening.symm.trans legal.opening, legal.unreserved⟩
  · rintro ⟨letter, unreserved⟩
    exact ⟨plain.ne_empty, plain.stem, opening.trans letter, unreserved⟩

/-! ### Units -/

/-- The records whose classes make up the text of a unit. -/
def Renders (classSuffix : Text) (unit : OutputUnit) (members : List Record) : Prop :=
  members.map (·.name) = unit.recordNames ∧
    ∃ imports, unit.source = unitSource unit.fileName classSuffix members imports

theorem unit_renders (records : List Record) (classSuffix fileSuffix : Text) :
    ∀ unit ∈ outputUnits records classSuffix fileSuffix, ∃ members,
      Renders classSuffix unit members ∧ ∀ member ∈ members, member ∈ records := by
  intro unit made
  rw [output_units_eq] at made
  obtain ⟨host, held, rfl⟩ := List.mem_map.mp made
  exact ⟨membersOf records host, ⟨rfl, _, rfl⟩, members_subset held⟩

/-- The names that stand in the classes of some units. -/
def NamesStand (definitions : Definitions) (classSuffix : Text) (units : List OutputUnit) : Prop :=
  ∀ unit ∈ units, ∃ members, Renders classSuffix unit members ∧ ∀ member ∈ members,
    ClassNamed definitions classSuffix member.name ∧ ∀ field ∈ member.fields, FieldNamed field

def KeysStand (definitions : Definitions) (classSuffix : Text) (graph : TypeGraph)
    (registry : Registry) : Prop :=
  ∀ definition ∈ definitions, ∃ record ∈ graph.records,
    registry.lookupReference definition.1 = some record.name ∧
      ((IsIdentifier (className record.name classSuffix) ↔
          Naming.opensWithDigit definition.1 = false) ∨
        Resolution.ShapeShared definitions definition)

/-- Class names and fields are identifiers except for digits in front and reserved words. -/
theorem identifiers_unless_digit_or_reserved (context : Resolution.Context)
    (definitions : Definitions) (distinct : definitions.keys.Nodup) {platform : Document.Platform}
    {tree : Files.Tree} {config : Option Text} {settings : Settings}
    (loaded : Settings.load platform tree config = .ok settings) :
    ∃ graph registry notices,
      Resolution.resolveGraph context definitions Registry.empty = .ok (graph, registry, notices) ∧
        NamesStand definitions settings.output.classSuffix
          (outputUnits graph.records settings.output.classSuffix settings.output.fileSuffix) ∧
        KeysStand definitions settings.output.classSuffix graph registry := by
  obtain ⟨graph, registry, notices, resolved, finished, names⟩ :=
    Resolution.resolve_graph_names context definitions distinct (type_named_law definitions)
  have suffix := (Settings.loaded_suffixes_plain loaded).classSuffix
  have classes : ∀ record ∈ graph.records,
      ClassNamed definitions settings.output.classSuffix record.name :=
    fun record held => (names record held).1.class_named suffix
  refine ⟨graph, registry, notices, resolved, ?_, ?_⟩
  · intro unit made
    obtain ⟨members, renders, held⟩ := unit_renders graph.records _ _ unit made
    refine ⟨members, renders, fun member listed => ?_⟩
    have stored := held member listed
    exact ⟨classes member stored, fun field there => field_named
      ((names member stored).2 field there)⟩
  · intro definition declared
    obtain ⟨record, stored, looked, opening⟩ := finished.declared_opening declared
    refine ⟨record, stored, looked, opening.imp_left fun same => ?_⟩
    rw [← same]
    exact (classes record stored).legal

def loginDefinitions : Definitions :=
  [("2fa login", .object
    [("class", .primitive .string none), ("Class", .primitive .string none),
      ("1st-try", .primitive .string none), ("user name", .primitive .string none)] [])]

theorem login_names_stand :
    loginDefinitions.keys.Nodup ∧
      Settings.load .standard Resolution.shortSuffixes (some ("/dto.yaml" : Text)) =
          .ok Resolution.shortSettings ∧
        ∃ graph registry notices,
          Resolution.resolveGraph ⟨.inline, 2⟩ loginDefinitions Registry.empty =
              .ok (graph, registry, notices) ∧
            NamesStand loginDefinitions "Dto" (outputUnits graph.records "Dto" "_dto") ∧
              KeysStand loginDefinitions "Dto" graph registry :=
  ⟨by decide, Resolution.short_settings_loaded,
    identifiers_unless_digit_or_reserved ⟨.inline, 2⟩ loginDefinitions (by decide)
      Resolution.short_settings_loaded⟩

/-- Neither the digits nor the reserved word are changed. -/
theorem digit_and_reserved_word_kept :
    (Resolution.graphOf ⟨.inline, 2⟩ loginDefinitions).toOption.map (fun made =>
      made.1.records.map fun record => ((className record.name "Dto",
        decide (IsIdentifier (className record.name "Dto"))),
        record.fields.map fun field =>
          (field.identifier, decide (IsIdentifier field.identifier)))) =
      some [((("2faLoginDto" : Text), false),
        [(("class" : Text), false), ("class2", true), ("1stTry", false), ("userName", true)])] := by
  decide +kernel

end DtoForge.Dart
