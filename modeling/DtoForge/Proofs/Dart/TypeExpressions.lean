import DtoForge.Proofs.Dart.Identifiers
import DtoForge.Proofs.Resolution.Closure

/-!
The type expressions of the fields of one graph. Class names hold no angle bracket and open with no
small letter, so of all types of a graph only a scalar and a record can have one expression, both
under as many lists: a text or a time, and a record whose class is named `String` or `DateTime`.
Nothing keeps names of records away from these two; a class suffix that neither of them ends with
does.
-/

namespace DtoForge

/-- A type is a part of itself and of the lists of whatever it is a part of. -/
inductive FieldType.Part (part : FieldType) : FieldType → Prop
  | whole : Part part part
  | item {type : FieldType} (inner : Part part type) : Part part (.list type)

theorem FieldType.Part.record_name {part type : FieldType} (inner : part.Part type) :
    part.recordName? = type.recordName? := by
  induction inner with
  | whole => rfl
  | item inner induction => exact induction

/-- The type occurs in a field of the graph, by itself or as what a list is of. -/
def TypeGraph.HasType (graph : TypeGraph) (type : FieldType) : Prop :=
  ∃ record ∈ graph.records, ∃ field ∈ record.fields, type.Part field.type

namespace Dart

def builtInClasses : List Text := ["String", "DateTime"]

/-- A scalar meets a record whose class has its name, perhaps under lists. -/
inductive Clash (classSuffix : Text) : FieldType → FieldType → Prop
  | builtIn {kind : ScalarType} {name : Text}
    (same : className name classSuffix = scalarName kind) :
    Clash classSuffix (.scalar kind) (.record name)
  | listed {left right : FieldType} (inner : Clash classSuffix left right) :
    Clash classSuffix (.list left) (.list right)

variable {classSuffix : Text} {left right type : FieldType}

/-! ### Expressions -/

def IsTypeName (name : Text) : Prop :=
  Naming.Plain name ∧ name.toList.head?.any Naming.isLower = false

def WellNamed (type : FieldType) : Prop := ∀ name, type.recordName? = some name → IsTypeName name

theorem scalar_name_injective {kind other : ScalarType}
    (same : scalarName kind = scalarName other) :
    kind = other := by
  cases kind <;> cases other <;> first | rfl | exact absurd same (by decide)

theorem capital_scalar {kind : ScalarType}
    (capital : (scalarName kind).toList.head?.any Naming.isLower = false) :
    (kind = .string ∨ kind = .dateTime) ∧ scalarName kind ∈ builtInClasses := by
  cases kind with
  | string | dateTime => decide
  | integer | number | boolean => exact absurd capital (by decide)

theorem class_name_capital (classSuffix : Text) {name : Text} (named : IsTypeName name) :
    (className name classSuffix).toList.head?.any Naming.isLower = false := by
  rw [className, named.1.head_append]
  exact named.2

theorem class_name_stem {name : Text} (plain : Naming.Plain name)
    (suffix : Naming.IsStem classSuffix.toList) :
    Naming.IsStem (className name classSuffix).toList := by
  rw [className, Text.to_list_append]
  exact List.forall_mem_append.mpr ⟨plain.stem, suffix⟩

def isGeneric : FieldType → Bool
  | .list _ | .map => true
  | .scalar _ | .record _ | .unknown => false

theorem angle_mem_iff (suffix : Naming.IsStem classSuffix.toList) (named : WellNamed type) :
    CodePoint.char '<' ∈ (typeText classSuffix type).toList ↔ isGeneric type = true := by
  cases type with
  | scalar kind =>
      have none : CodePoint.char '<' ∉ (scalarName kind).toList := by cases kind <;> decide
      simpa [typeText, isGeneric] using none
  | record name =>
      have stem := class_name_stem (named name rfl).1 suffix
      have none : CodePoint.char '<' ∉ (className name classSuffix).toList := fun angle =>
        absurd (stem _ angle) (by decide)
      simpa [typeText, isGeneric] using none
  | list item => simp [typeText, isGeneric, Text.to_list_append]
  | map => simp [typeText, mapName, isGeneric]
  | unknown => simp [typeText, dynamicName, isGeneric]

theorem generic_of_same_text (suffix : Naming.IsStem classSuffix.toList)
    (leftNamed : WellNamed left) (rightNamed : WellNamed right)
    (same : typeText classSuffix left = typeText classSuffix right) :
    isGeneric left = isGeneric right := by
  rw [Bool.eq_iff_iff, ← angle_mem_iff suffix leftNamed, ← angle_mem_iff suffix rightNamed, same]

theorem list_text_injective {item other : FieldType}
    (same : typeText classSuffix (.list item) = typeText classSuffix (.list other)) :
    typeText classSuffix item = typeText classSuffix other := by
  simp only [typeText] at same
  exact (Text.append_right_inj _).mp ((Text.append_left_inj _).mp same)

theorem list_text_ne_map (item : FieldType) :
    typeText classSuffix (.list item) ≠ typeText classSuffix .map := by
  intro same
  have chars := congrArg Text.toList same
  simp [typeText, mapName, Text.to_list_append] at chars

theorem dynamic_ne_scalar (kind : ScalarType) : dynamicName ≠ scalarName kind := by
  cases kind <;> decide

theorem dynamic_ne_class {name : Text} (named : IsTypeName name) :
    dynamicName ≠ className name classSuffix := by
  intro same
  have capital := class_name_capital classSuffix named
  rw [← same] at capital
  exact absurd capital (by decide)

theorem Clash.same_text (clash : Clash classSuffix left right) :
    typeText classSuffix left = typeText classSuffix right := by
  induction clash with
  | builtIn same => exact same.symm
  | listed inner induction => rw [typeText, typeText, induction]

theorem clash_of_same_text (suffix : Naming.IsStem classSuffix.toList)
    (leftNamed : WellNamed left) (rightNamed : WellNamed right)
    (same : typeText classSuffix left = typeText classSuffix right) :
    left = right ∨ Clash classSuffix left right ∨ Clash classSuffix right left := by
  have generic := generic_of_same_text suffix leftNamed rightNamed same
  induction left generalizing right with
  | scalar kind =>
      cases right with
      | scalar other => exact Or.inl (congrArg _ (scalar_name_injective same))
      | record name => exact Or.inr (Or.inl (.builtIn same.symm))
      | unknown => exact absurd same.symm (dynamic_ne_scalar kind)
      | list | map => cases generic
  | record name =>
      cases right with
      | scalar kind => exact Or.inr (Or.inr (.builtIn same))
      | record other => exact Or.inl (congrArg _ ((Text.append_left_inj _).mp same))
      | unknown => exact absurd same.symm (dynamic_ne_class (leftNamed name rfl))
      | list | map => cases generic
  | list item induction =>
      cases right with
      | list other =>
          have inner := list_text_injective same
          have itemNamed : WellNamed item := leftNamed
          have otherNamed : WellNamed other := rightNamed
          have kind := generic_of_same_text suffix itemNamed otherNamed inner
          rcases induction itemNamed otherNamed inner kind with rfl | clash | clash
          · exact Or.inl rfl
          · exact Or.inr (Or.inl (.listed clash))
          · exact Or.inr (Or.inr (.listed clash))
      | map => exact absurd same (list_text_ne_map item)
      | scalar | record | unknown => cases generic
  | map =>
      cases right with
      | map => exact Or.inl rfl
      | list other => exact absurd same.symm (list_text_ne_map other)
      | scalar | record | unknown => cases generic
  | unknown =>
      cases right with
      | unknown => exact Or.inl rfl
      | scalar kind => exact absurd same (dynamic_ne_scalar kind)
      | record name => exact absurd same (dynamic_ne_class (rightNamed name rfl))
      | list | map => cases generic

/-- Types have one expression just if they are the same or clash. -/
theorem same_text_iff (suffix : Naming.IsStem classSuffix.toList) (leftNamed : WellNamed left)
    (rightNamed : WellNamed right) :
    typeText classSuffix left = typeText classSuffix right ↔
      left = right ∨ Clash classSuffix left right ∨ Clash classSuffix right left := by
  constructor
  · exact clash_of_same_text suffix leftNamed rightNamed
  · rintro (rfl | clash | clash)
    · rfl
    · exact clash.same_text
    · exact clash.same_text.symm

theorem Clash.built_in (clash : Clash classSuffix left right) (named : WellNamed right) :
    ∃ name, right.recordName? = some name ∧ className name classSuffix ∈ builtInClasses := by
  induction clash with
  | @builtIn kind name same =>
      have capital := class_name_capital classSuffix (named name rfl)
      rw [same] at capital
      exact ⟨name, rfl, same ▸ (capital_scalar capital).2⟩
  | listed inner induction => exact induction named

theorem class_meets_scalar (suffix : Naming.IsStem classSuffix.toList) {name : Text}
    (named : IsTypeName name) (bare : type.recordName? = none)
    (same : className name classSuffix = typeText classSuffix type) :
    type = .scalar .string ∨ type = .scalar .dateTime := by
  have whole : WellNamed (.record name) := by
    rintro other ⟨⟩
    exact named
  have none : WellNamed type := by simp [WellNamed, bare]
  have written : typeText classSuffix (.record name) = typeText classSuffix type := same
  rcases clash_of_same_text suffix whole none written with rfl | clash | clash
  · cases bare
  · cases clash
  · cases clash with
    | builtIn scalar =>
        have capital := class_name_capital classSuffix named
        rw [scalar] at capital
        exact (capital_scalar capital).1.imp (congrArg _) (congrArg _)

/-! ### The types of a graph -/

/-- Different types of the graph have different expressions. -/
def ToldApart (classSuffix : Text) (graph : TypeGraph) : Prop :=
  ∀ left right, graph.HasType left → graph.HasType right →
    typeText classSuffix left = typeText classSuffix right → left = right

/-- How far the types of a graph are told apart by their expressions. -/
structure TypesApart (classSuffix : Text) (graph : TypeGraph) : Prop where
  sameText : ∀ left right, graph.HasType left → graph.HasType right →
    (typeText classSuffix left = typeText classSuffix right ↔
      left = right ∨ Clash classSuffix left right ∨ Clash classSuffix right left)
  builtIn : ∀ record ∈ graph.records, ∀ type, type.recordName? = none →
    className record.name classSuffix = typeText classSuffix type →
      type = .scalar .string ∨ type = .scalar .dateTime
  apart : (∀ record ∈ graph.records, className record.name classSuffix ∉ builtInClasses) →
    ToldApart classSuffix graph
  suffixed : (∀ name ∈ builtInClasses, ¬ classSuffix.toList <:+ name.toList) →
    ToldApart classSuffix graph

theorem class_not_built_in (unlike : ∀ name ∈ builtInClasses, ¬ classSuffix.toList <:+ name.toList)
    (name : Text) : className name classSuffix ∉ builtInClasses := by
  intro built
  apply unlike _ built
  rw [className, Text.to_list_append]
  exact List.suffix_append _ _

theorem types_apart_of_named {graph : TypeGraph} (suffix : Naming.IsStem classSuffix.toList)
    (names : ∀ record ∈ graph.records, IsTypeName record.name)
    (closed : ∀ record ∈ graph.records, ∀ field ∈ record.fields, ∀ name,
      field.type.recordName? = some name → name ∈ graph.names) : TypesApart classSuffix graph := by
  have listed {type : FieldType} (held : graph.HasType type) (name : Text)
      (refers : type.recordName? = some name) : ∃ record ∈ graph.records, record.name = name := by
    obtain ⟨record, stored, field, there, part⟩ := held
    rw [part.record_name] at refers
    exact List.mem_map.mp (closed record stored field there name refers)
  have named {type : FieldType} (held : graph.HasType type) : WellNamed type := by
    intro name refers
    obtain ⟨record, stored, rfl⟩ := listed held name refers
    exact names record stored
  have told (free : ∀ record ∈ graph.records, className record.name classSuffix ∉ builtInClasses) :
      ToldApart classSuffix graph := by
    intro left right leftHeld rightHeld same
    rcases clash_of_same_text suffix (named leftHeld) (named rightHeld) same with
      equal | clash | clash
    · exact equal
    · obtain ⟨name, refers, built⟩ := clash.built_in (named rightHeld)
      obtain ⟨record, stored, rfl⟩ := listed rightHeld name refers
      exact absurd built (free record stored)
    · obtain ⟨name, refers, built⟩ := clash.built_in (named leftHeld)
      obtain ⟨record, stored, rfl⟩ := listed leftHeld name refers
      exact absurd built (free record stored)
  constructor
  case sameText =>
    intro left right leftHeld rightHeld
    exact same_text_iff suffix (named leftHeld) (named rightHeld)
  case builtIn =>
    intro record stored type bare same
    exact class_meets_scalar suffix (names record stored) bare same
  case apart => exact told
  case suffixed =>
    intro unlike
    exact told fun record _ => class_not_built_in unlike record.name

/-- Whatever the definitions are, types of one graph share an expression only where a class goes by
the name of a built-in type. -/
theorem types_apart_unless_built_in (context : Resolution.Context) (definitions : Definitions)
    (distinct : definitions.keys.Nodup) {platform : Document.Platform} {tree : Files.Tree}
    {config : Option Text} {settings : Settings}
    (loaded : Settings.load platform tree config = .ok settings) :
    ∃ graph notices, Resolution.graphOf context definitions = .ok (graph, notices) ∧
      TypesApart settings.output.classSuffix graph := by
  obtain ⟨graph, registry, notices, resolved, finished, names⟩ :=
    Resolution.resolve_graph_names context definitions distinct (type_named_law definitions)
  have suffix := (Settings.loaded_suffixes_plain loaded).classSuffix
  refine ⟨graph, notices, by rw [Resolution.graphOf, resolved]; rfl, ?_⟩
  refine types_apart_of_named suffix ?_ ?_
  · exact fun record held => ⟨(names record held).1.plain, (names record held).1.capital⟩
  · intro record held field member name refers
    have once := finished.references_met record held field member name refers
    exact List.count_pos_iff.mp (once ▸ Nat.one_pos)

def bareSuffix : Files.Tree :=
  ⟨[(["dto.yaml"], .file (Text.stringBytes "output:\n  class_suffix:\n"))], []⟩

def bareSettings : Settings :=
  { path := some (Files.Path.parse "/dto.yaml"), output := { classSuffix := "" } }

theorem bare_settings_loaded :
    Settings.load .standard bareSuffix (some ("/dto.yaml" : Text)) = .ok bareSettings := by
  decide +kernel

def stringDefinitions : Definitions :=
  [("String", .object
    [("text", .primitive .string none), ("next", .reference "#/definitions/String"),
      ("lines", .array (.primitive .string none)),
      ("others", .array (.reference "#/definitions/String"))] [])]

theorem string_types_apart :
    stringDefinitions.keys.Nodup ∧
      Settings.load .standard bareSuffix (some ("/dto.yaml" : Text)) = .ok bareSettings ∧
        ∃ graph notices, Resolution.graphOf ⟨.inline, 3⟩ stringDefinitions = .ok (graph, notices) ∧
          TypesApart "" graph :=
  ⟨by decide, bare_settings_loaded,
    types_apart_unless_built_in ⟨.inline, 3⟩ stringDefinitions (by decide) bare_settings_loaded⟩

/-- With that suffix, a text and a record are written alike, and so are the lists of them. -/
theorem class_meets_string :
    Settings.load .standard bareSuffix (some ("/dto.yaml" : Text)) = .ok bareSettings ∧
      (Resolution.graphOf ⟨.inline, 3⟩ stringDefinitions).toOption.map (fun made =>
        made.1.records.flatMap fun record => record.fields.map fun field =>
          (field.type, typeText bareSettings.output.classSuffix field.type)) =
        some [(.scalar .string, ("String" : Text)), (.record "String", "String"),
          (.list (.scalar .string), "List<String>"), (.list (.record "String"), "List<String>")] :=
  ⟨bare_settings_loaded, by decide +kernel⟩

end Dart

end DtoForge
