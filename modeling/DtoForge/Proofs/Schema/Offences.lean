import DtoForge.Proofs.Schema.Grammar

/-!
Reading a schema against its grammar. A step of reading either finds nothing wrong or reports the
first of the offences that it comes to; steps one after the other keep this when the offences of the
later one stand behind those of the earlier one. So reading as a whole gives a schema just if all
fragments fit, and reports the first offence otherwise. What the schema is that it gives is not
looked at here.
-/

namespace DtoForge

open Document

namespace Schema

variable {α β : Type} {among others : Offence → Prop} {step : Except SchemaFault α}

/-! ### Steps that report -/

/-- A success where there are no offences, and otherwise the report of the first of them. -/
inductive Reports (among : Offence → Prop) : Except SchemaFault α → Prop
  | clean {value : α} (none : ∀ offence, ¬ among offence) : Reports among (.ok value)
  | first (offence : Offence) (held : among offence)
      (least : ∀ other, among other → ¬ other.Before offence) :
      Reports among (.error (.fragment offence.kind offence.place))

theorem Reports.congr (reports : Reports among step)
    (same : ∀ offence, others offence ↔ among offence) : Reports others step := by
  have equal : others = among := funext fun offence => propext (same offence)
  rw [equal]
  exact reports

theorem Reports.map (reports : Reports among step) (change : α → β) :
    Reports among (step.map change) := by
  cases reports with
  | clean none => exact .clean none
  | first offence held least => exact .first offence held least

theorem Reports.under (reports : Reports among step) (number : Nat) :
    Reports (fun offence => ∃ inner, among inner ∧ offence = inner.under number) step := by
  cases reports with
  | clean none =>
      apply Reports.clean
      rintro _ ⟨inner, held, rfl⟩
      exact none inner held
  | first offence held least =>
      refine Reports.first (offence.under number) ⟨offence, held, rfl⟩ ?_
      rintro _ ⟨other, otherHeld, rfl⟩ before
      rcases List.cons_lex_cons_iff.mp before with smaller | ⟨-, inner⟩
      · exact Nat.lt_irrefl number smaller
      · exact least other otherHeld inner

theorem Reports.bind {next : α → Except SchemaFault β} (reports : Reports among step)
    (later : ∀ value, Reports others (next value))
    (order : ∀ early late, among early → others late → ¬ late.Before early) :
    Reports (fun offence => among offence ∨ others offence) (step >>= next) := by
  cases reports with
  | @clean value none =>
      refine (later value).congr fun offence => ?_
      exact or_iff_right (none offence)
  | first offence held least =>
      refine Reports.first offence (Or.inl held) ?_
      rintro other (early | late)
      · exact least other early
      · exact order offence other held late

theorem Reports.only (offence : Offence) (single : ∀ other, among other ↔ other = offence) :
    Reports among (.error (.fragment offence.kind offence.place) : Except SchemaFault α) := by
  apply Reports.first offence ((single offence).mpr rfl)
  intro other held
  rw [(single other).mp held]
  exact List.lex_irrefl Nat.lt_irrefl offence.order

theorem Reports.ok_iff (reports : Reports among step) :
    (∃ value, step = .ok value) ↔ ∀ offence, ¬ among offence := by
  cases reports with
  | clean none => exact iff_of_true ⟨_, rfl⟩ none
  | first offence held => exact iff_of_false nofun fun none => none offence held

/-! ### The steps of reading -/

variable {location : Location} {entries children : Entries} {value : Value}

/-- The offences below a mapping of properties, its entries numbered from some number on. -/
def ChildOffends (locate : Text → Location) (start : Nat) (children : Entries)
    (offence : Offence) : Prop :=
  ∃ index key child inner, children[index]? = some (key, child) ∧
    OffendsAt (locate key.nameText) child inner ∧ offence = inner.under (start + index)

theorem child_offends_cons {locate : Text → Location} {start : Nat} {key : Scalar} {child : Value}
    {rest : Entries} {offence : Offence} :
    ChildOffends locate start ((key, child) :: rest) offence ↔
      (∃ inner, OffendsAt (locate key.nameText) child inner ∧ offence = inner.under start) ∨
        ChildOffends locate (start + 1) rest offence := by
  constructor
  · rintro ⟨index, other, value, inner, stands, offends, same⟩
    cases index with
    | zero =>
        cases stands
        exact Or.inl ⟨inner, offends, same⟩
    | succ index =>
        refine Or.inr ⟨index, other, value, inner, stands, offends, ?_⟩
        rw [same, Nat.add_assoc, Nat.add_comm 1]
  · rintro (⟨inner, offends, same⟩ | ⟨index, other, value, inner, stands, offends, same⟩)
    · exact ⟨0, key, child, inner, rfl, offends, same⟩
    · refine ⟨index + 1, other, value, inner, stands, offends, ?_⟩
      rw [same, Nat.add_assoc, Nat.add_comm 1]

theorem not_before_of_lt (early late : Offence) {small large : Nat} (smaller : small < large) :
    ¬ (late.under large).Before (early.under small) := by
  intro before
  rcases List.cons_lex_cons_iff.mp before with larger | ⟨same, -⟩ <;> omega

theorem children_report (locate : Text → Location) (children : Entries) (start : Nat)
    (each : ∀ entry ∈ children, ∀ location,
      Reports (OffendsAt location entry.2) (ofValue location entry.2)) :
    Reports (ChildOffends locate start children) (childrenOf locate children) := by
  induction children generalizing start with
  | nil =>
      rw [childrenOf]
      apply Reports.clean
      rintro offence ⟨index, key, child, inner, stands, -⟩
      cases stands
  | cons entry rest induction =>
      obtain ⟨key, child⟩ := entry
      obtain ⟨here, others⟩ := List.forall_mem_cons.mp each
      have first := (here (locate key.nameText)).under start
      have later := induction (start + 1) others
      rw [childrenOf]
      refine (first.bind (fun node => later.map fun others => (key.nameText, node) :: others)
        ?_).congr
        fun offence => child_offends_cons
      rintro _ _ ⟨early, -, rfl⟩ ⟨index, _, _, late, -, -, rfl⟩
      exact not_before_of_lt early late (by omega)

def RequiredOffends (location : Location) (entries children : Entries) (offence : Offence) : Prop :=
  (∃ names, entries.get? "required" = some names ∧ names ≠ .null ∧ ¬ IsSequence names) ∧
    offence = ⟨[children.length + 1], .required, location⟩

theorem required_report (location : Location) (entries children : Entries) :
    Reports (RequiredOffends location entries children) (requiredNames location entries) := by
  have fits {names : Value} (found : entries.get? "required" = some names)
      (good : names = .null ∨ IsSequence names) (offence : Offence) :
      ¬ RequiredOffends location entries children offence := by
    rintro ⟨⟨other, again, present, shape⟩, -⟩
    cases found.symm.trans again
    exact good.elim present shape
  unfold requiredNames
  split
  · rename_i absent
    apply Reports.clean
    rintro offence ⟨⟨names, found, -⟩, -⟩
    cases absent.symm.trans found
  · rename_i found
    exact .clean (fits found (Or.inl rfl))
  · rename_i items found
    exact .clean (fits found (Or.inr (.list items)))
  · rename_i bytes found
    exact .clean (fits found (Or.inr (.bytes bytes)))
  · rename_i first second found
    exact .clean (fits found (Or.inr (.pair first second)))
  · rename_i names noNull noList noBytes noPair found
    refine Reports.only ⟨[children.length + 1], .required, location⟩ fun other => ?_
    refine and_iff_right ⟨names, found, noNull, ?_⟩
    rintro (items | bytes | ⟨first, second⟩)
    · exact noList items rfl
    · exact noBytes bytes rfl
    · exact noPair first second rfl

/-! ### One node -/

theorem clean_of_bare (fits : ∀ kind number, ¬ Offends value kind number)
    (bare : ∀ number inner child, ¬ Below location value number inner child) (offence : Offence) :
    ¬ OffendsAt location value offence := by
  rw [offends_at_iff]
  rintro (⟨number, offends, -⟩ | ⟨number, inner, child, other, below, -⟩)
  · exact fits _ _ offends
  · exact bare _ _ _ below

theorem only_of_bare {kind : SchemaOffence}
    (single : ∀ other number, Offends value other number ↔ other = kind ∧ number = 0)
    (bare : ∀ number inner child, ¬ Below location value number inner child) (offence : Offence) :
    OffendsAt location value offence ↔ offence = ⟨[0], kind, location⟩ := by
  rw [offends_at_iff]
  constructor
  · rintro (⟨number, offends, same⟩ | ⟨number, inner, child, other, below, -⟩)
    · obtain ⟨own, zero⟩ := (single _ _).mp offends
      rw [same, own, zero]
    · exact absurd below (bare _ _ _)
  · rintro rfl
    exact Or.inl ⟨0, (single _ _).mpr ⟨rfl, rfl⟩, rfl⟩

theorem other_report (location : Location) (other : ∀ entries, value ≠ .map entries) :
    Reports (OffendsAt location value) (.error (.fragment .node location) : Except _ Schema) := by
  refine Reports.only ⟨[0], .node, location⟩ (only_of_bare ?_ ?_)
  · intro kind number
    constructor
    · intro offends
      cases offends with
      | node => exact ⟨rfl, rfl⟩
      | reference | properties | required => exact absurd rfl (other _)
    · rintro ⟨rfl, rfl⟩
      exact .node other
  · intro number inner child below
    cases below with
    | property | items => exact absurd rfl (other _)

theorem reference_report (location : Location) (found : entries.get? "$ref" = some value)
    (present : value ≠ .null) (shape : ∀ pointer, value ≠ .text pointer) :
    Reports (OffendsAt location (.map entries))
      (.error (.fragment .reference location) : Except _ Schema) := by
  have referenced : ¬ Unreferenced entries := fun plain => present (plain value found)
  refine Reports.only ⟨[0], .reference, location⟩ (only_of_bare ?_ ?_)
  · intro kind number
    constructor
    · intro offends
      cases offends with
      | node shape => exact absurd rfl (shape _)
      | reference => exact ⟨rfl, rfl⟩
      | properties object | required object => exact absurd object.unreferenced referenced
    · rintro ⟨rfl, rfl⟩
      exact .reference found present shape
  · intro number inner child below
    cases below with
    | property object => exact referenced object.unreferenced
    | items array => exact referenced array.unreferenced

theorem pointer_clean {pointer : Text} (found : entries.get? "$ref" = some (.text pointer))
    (offence : Offence) : ¬ OffendsAt location (.map entries) offence := by
  have referenced : ¬ Unreferenced entries := fun plain => nomatch plain _ found
  apply clean_of_bare
  · intro kind number offends
    cases offends with
    | node shape => exact shape _ rfl
    | reference again present shape =>
        cases found.symm.trans again
        exact shape pointer rfl
    | properties object | required object => exact referenced object.unreferenced
  · intro number inner child below
    cases below with
    | property object => exact referenced object.unreferenced
    | items array => exact referenced array.unreferenced

theorem plain_fits (plain : Unreferenced entries) (other : ¬ DescribesObject entries)
    (kind : SchemaOffence) (number : Nat) : ¬ Offends (.map entries) kind number := by
  intro offends
  cases offends with
  | node shape => exact shape _ rfl
  | reference found present => exact present (plain _ found)
  | properties object | required object => exact other object.object

theorem leaf_clean (plain : Unreferenced entries) (other : ¬ DescribesObject entries)
    (noArray : ¬ FirstTypeName entries "array") (offence : Offence) :
    ¬ OffendsAt location (.map entries) offence := by
  apply clean_of_bare (plain_fits plain other)
  intro number inner child below
  cases below with
  | property object => exact other object.object
  | items array => exact noArray array.array

theorem items_report (location : Location) (array : ArrayNode entries)
    (each : ∀ item, entries.get? "items" = some item → ∀ location,
      Reports (OffendsAt location item) (ofValue location item)) :
    Reports (OffendsAt location (.map entries)) (itemsIn location entries) := by
  have fits := plain_fits array.unreferenced array.other
  have only {number : Nat} {inner : Location} {child : Value}
      (below : Below location (.map entries) number inner child) :
      entries.get? "items" = some child ∧ child ≠ .null ∧ number = 1 ∧
        inner = location.child .items := by
    cases below with
    | property object => exact absurd object.object array.other
    | items _ found present => exact ⟨found, present, rfl, rfl⟩
  rw [items_in_eq]
  cases found : entries.get? "items" with
  | none =>
      refine Reports.clean (clean_of_bare fits fun number inner child below => ?_)
      cases found.symm.trans (only below).1
  | some item =>
      dsimp only
      split
      · rename_i null
        refine Reports.clean (clean_of_bare fits fun number inner child below => ?_)
        obtain ⟨again, present, -⟩ := only below
        cases found.symm.trans again
        exact present (is_null_iff.mp null)
      · rename_i present
        refine ((each item found (location.child .items)).under 1).congr fun offence => ?_
        rw [offends_at_iff]
        constructor
        · rintro (⟨number, offends, -⟩ | ⟨number, inner, child, other, below, offends, same⟩)
          · exact absurd offends (fits _ _)
          · obtain ⟨again, -, rfl, rfl⟩ := only below
            cases found.symm.trans again
            exact ⟨other, offends, same⟩
        · rintro ⟨other, offends, same⟩
          have isPresent : item ≠ .null := fun null => present (is_null_iff.mpr null)
          exact Or.inr ⟨1, _, item, other, .items array found isPresent, offends, same⟩

theorem ObjectNode.offends_cases (object : ObjectNode entries) {kind : SchemaOffence} {number : Nat}
    (offends : Offends (.map entries) kind number) :
    (∃ value, entries.get? "properties" = some value ∧ value ≠ .null ∧
        (∀ children, value ≠ .map children) ∧ kind = .properties ∧ number = 0) ∨
      ∃ children names, entries.get? "properties" = some (.map children) ∧
        entries.get? "required" = some names ∧ names ≠ .null ∧ ¬ IsSequence names ∧
          kind = .required ∧ number = children.length + 1 := by
  cases offends with
  | node shape => exact absurd rfl (shape _)
  | reference referred present => exact absurd (object.unreferenced _ referred) present
  | properties _ found present shape => exact Or.inl ⟨_, found, present, shape, rfl, rfl⟩
  | required _ found needed present shape =>
      exact Or.inr ⟨_, _, found, needed, present, shape, rfl, rfl⟩

theorem ObjectNode.below_cases (object : ObjectNode entries) {number : Nat} {inner : Location}
    {child : Value} (below : Below location (.map entries) number inner child) :
    ∃ children index key, entries.get? "properties" = some (.map children) ∧
      children[index]? = some (key, child) ∧ number = index + 1 ∧
        inner = location.child (.property key.nameText) := by
  cases below with
  | property _ found stands => exact ⟨_, _, _, found, stands, rfl, rfl⟩
  | items array => exact absurd object.object array.other

theorem bare_object_clean (object : ObjectNode entries)
    (bare : ∀ value, entries.get? "properties" = some value → value = .null) (offence : Offence) :
    ¬ OffendsAt location (.map entries) offence := by
  apply clean_of_bare
  · intro kind number offends
    rcases object.offends_cases offends with ⟨value, found, present, -⟩ | ⟨children, -, found, -⟩
    · exact present (bare value found)
    · cases bare _ found
  · intro number inner child below
    obtain ⟨children, -, -, found, -⟩ := object.below_cases below
    cases bare _ found

theorem properties_report (location : Location) (object : ObjectNode entries)
    (found : entries.get? "properties" = some value) (present : value ≠ .null)
    (shape : ∀ children, value ≠ .map children) :
    Reports (OffendsAt location (.map entries))
      (.error (.fragment .properties location) : Except _ Schema) := by
  refine Reports.only ⟨[0], .properties, location⟩ (only_of_bare ?_ ?_)
  · intro kind number
    constructor
    · intro offends
      rcases object.offends_cases offends with ⟨-, -, -, -, own⟩ | ⟨children, -, again, -⟩
      · exact own
      · cases found.symm.trans again
        exact absurd rfl (shape _)
    · rintro ⟨rfl, rfl⟩
      exact .properties object found present shape
  · intro number inner child below
    obtain ⟨children, -, -, again, -⟩ := object.below_cases below
    cases found.symm.trans again
    exact shape _ rfl

theorem object_offends_iff (object : ObjectNode entries)
    (found : entries.get? "properties" = some (.map children)) (offence : Offence) :
    OffendsAt location (.map entries) offence ↔
      ChildOffends (fun name => location.child (.property name)) 1 children offence ∨
        RequiredOffends location entries children offence := by
  rw [offends_at_iff]
  constructor
  · rintro (⟨number, offends, same⟩ | ⟨number, inner, child, other, below, offends, same⟩)
    · right
      rcases object.offends_cases offends with
        ⟨value, again, -, shape, -⟩ | ⟨_, names, again, needed, present, shape, kind, rank⟩
      · cases found.symm.trans again
        exact absurd rfl (shape _)
      · cases found.symm.trans again
        rw [kind, rank] at same
        exact ⟨⟨names, needed, present, shape⟩, same⟩
    · left
      obtain ⟨_, index, key, again, stands, rfl, rfl⟩ := object.below_cases below
      cases found.symm.trans again
      refine ⟨index, key, child, other, stands, offends, ?_⟩
      rw [same, Nat.add_comm]
  · rintro (⟨index, key, child, inner, stands, offends, same⟩ | ⟨⟨names, needed, present, shape⟩,
      same⟩)
    · refine Or.inr ⟨index + 1, _, child, inner, .property object found stands, offends, ?_⟩
      rw [same, Nat.add_comm]
    · rw [same]
      exact Or.inl ⟨_, .required object found needed present shape, rfl⟩

theorem object_report (location : Location) (object : ObjectNode entries)
    (each : ∀ children, entries.get? "properties" = some (.map children) → ∀ entry ∈ children,
      ∀ location, Reports (OffendsAt location entry.2) (ofValue location entry.2)) :
    Reports (OffendsAt location (.map entries)) (do
      match ← propertiesIn location entries with
      | none => return Schema.object [] []
      | some properties => return .object properties (← requiredNames location entries)) := by
  rw [properties_in_eq]
  cases found : entries.get? "properties" with
  | none => exact .clean (bare_object_clean object (by simp [found]))
  | some value =>
      dsimp only
      unfold propertiesOf
      split
      · exact .clean (bare_object_clean object (by simp [found]))
      · rename_i children
        have read := children_report (fun name => location.child (.property name)) children 1
          (each children found)
        have needed := required_report location entries children
        have behind : ∀ early late,
            ChildOffends (fun name => location.child (.property name)) 1 children early →
              RequiredOffends location entries children late → ¬ late.Before early := by
          rintro _ _ ⟨index, key, child, inner, stands, -, rfl⟩ ⟨-, rfl⟩
          have bound := (List.getElem?_eq_some_iff.mp stands).1
          exact not_before_of_lt inner ⟨[], .required, location⟩ (by omega)
        refine Reports.congr ?_ (object_offends_iff object found)
        generalize childrenOf (fun name => location.child (.property name)) children =
          step at read ⊢
        have joined := read.bind (fun properties : Definitions =>
            needed.map (Schema.object properties))
          behind
        cases step with
        | error | ok => exact joined
      · rename_i noNull noMap
        exact properties_report location object found noNull noMap

/-! ### A whole schema -/

theorem found_of_present {name : Text} (there : entries.present? name = some value) :
    entries.get? name = some value ∧ value ≠ .null := by
  obtain ⟨found, present⟩ := Option.filter_eq_some_iff.mp there
  exact ⟨found, fun null => by simp [null, Value.isNull] at present⟩

theorem value_report (location : Location) (value : Value) :
    Reports (OffendsAt location value) (ofValue location value) := by
  -- the induction is on the size of the value, since properties lie two mappings below their object
  induction size : sizeOf value using Nat.strongRecOn generalizing location value with
  | ind bound induction =>
  subst size
  unfold ofValue
  split
  · rename_i entries
    split
    · rename_i pointer referred
      exact .clean (pointer_clean (found_of_present referred).1)
    · rename_i target noText referred
      obtain ⟨found, present⟩ := found_of_present referred
      exact reference_report location found present fun pointer text =>
        noText pointer (by rw [text])
    · rename_i noReference
      have plain := unreferenced_iff.mpr noReference
      split
      · rename_i isObject
        refine object_report location ⟨plain, is_object_node_iff.mp isObject⟩ ?_
        intro children found entry member location
        exact induction _ ((member_size member).trans (get_size found)) location entry.2 rfl
      · rename_i noObject
        have other : ¬ DescribesObject entries := fun object =>
          noObject (is_object_node_iff.mpr object)
        split
        · rename_i untyped
          refine .clean (leaf_clean plain other fun array => ?_)
          rw [← head_type_names, untyped] at array
          cases array
        · rename_i name others typed
          have first : FirstTypeName entries name := by rw [← head_type_names, typed]; rfl
          split
          · rename_i isArray
            subst isArray
            refine (items_report location ⟨plain, other, first⟩ ?_).map _
            exact fun item found location => induction _ (get_size found) location item rfl
          · rename_i noArray
            refine .clean (leaf_clean plain other fun array => noArray ?_)
            rw [← head_type_names, typed] at array
            exact Option.some.inj array
  · rename_i noMap
    exact other_report location noMap

theorem message_names_place (kind : SchemaOffence) (place : Location) :
    ∃ before behind, (SchemaFault.fragment kind place).message =
      before ++ place.text ++ behind := by
  cases kind with
  | node => exact ⟨"Schema node at ", " must be a mapping.", rfl⟩
  | reference => exact ⟨"Schema reference at ", " must be a string.", rfl⟩
  | properties => exact ⟨"Schema properties at ", " must be a mapping.", rfl⟩
  | required => exact ⟨"Schema required list at ", " must be a list of names.", rfl⟩

/-- Reading gives a schema just if every fragment fits the grammar. Otherwise it reports the offence
that stands first in the document, with its place. -/
theorem reading_reports_first_offence (location : Location) (value : Value) :
    ((∃ schema, ofValue location value = .ok schema) ↔
        ∀ path place fragment, Visits location value path place fragment → WellFormed fragment) ∧
      ∀ fault, ofValue location value = .error fault ↔
        ∃ offence, FirstOffence location value offence ∧
          fault = .fragment offence.kind offence.place ∧
            ∃ before behind, fault.message = before ++ offence.place.text ++ behind := by
  have report := value_report location value
  constructor
  · rw [all_well_formed_iff]
    exact report.ok_iff
  · intro fault
    constructor
    · intro failed
      rw [failed] at report
      cases report with
      | first offence held least =>
          exact ⟨offence, ⟨held, least⟩, rfl, message_names_place offence.kind offence.place⟩
    · rintro ⟨offence, first, rfl, -⟩
      cases read : ofValue location value with
      | ok schema =>
          rw [read] at report
          cases report with
          | clean none => exact absurd first.stands (none offence)
      | error fault =>
          rw [read] at report
          cases report with
          | first _ held least => rw [first.unique ⟨held, least⟩]

/-- The items of a property come before the required names of the object. -/
example : ofValue ⟨"#", []⟩ (.map [(.text "required", .text "stops"), (.text "properties",
      .map [(.text "stops", .map [(.text "type", .list [.text "null", .text "array"]),
        (.text "items", .text "Place")])])]) =
    .error (.fragment .node ⟨"#", [.property "stops", .items]⟩) := rfl

end Schema

end DtoForge
