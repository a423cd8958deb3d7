import DtoForge.Proofs.Schema.Equivalence
import DtoForge.Proofs.Steps
import DtoForge.Schema.Inference
import DtoForge.Schema.Reading

/-!
The mappings of a document whose keys become names. A schema that is read passes from an object to
the mapping under its properties and from an array to its items; one that is inferred passes to
every value of a mapping and to the first item of a list. A name comes twice in the schema just if
two keys of one of these mappings are spelled alike.
-/

namespace DtoForge

open Document

def Document.Entries.names (entries : Entries) : List Text :=
  entries.map fun entry => entry.1.nameText

namespace Schema

/-! ### Properties of a schema and below it -/

theorem within_iff {root node : Schema} :
    root.Within node ↔ node = root ∨ ∃ child ∈ root.children, child.Within node := by
  constructor
  · intro within
    induction within with
    | self => exact Or.inl rfl
    | property _ member induction =>
        rcases induction with same | ⟨child, listed, below⟩
        · exact Or.inr ⟨_, same ▸ List.mem_map_of_mem member, .self⟩
        · exact Or.inr ⟨child, listed, below.property member⟩
    | items _ induction =>
        rcases induction with same | ⟨child, listed, below⟩
        · exact Or.inr ⟨_, same ▸ List.mem_singleton_self _, .self⟩
        · exact Or.inr ⟨child, listed, below.items⟩
  · rintro (rfl | ⟨child, listed, below⟩)
    · exact .self
    · exact (Within.self.child listed).trans below

theorem properties_distinct_iff {root : Schema} :
    PropertiesDistinct root ↔
      (Table.keys root.properties).Nodup ∧ ∀ child ∈ root.children, PropertiesDistinct child := by
  constructor
  · exact fun distinct => ⟨distinct root .self, fun _ listed =>
      distinct.within (Within.self.child listed)⟩
  · rintro ⟨here, below⟩ node within
    rcases within_iff.mp within with rfl | ⟨child, listed, inner⟩
    · exact here
    · exact below child listed node inner

theorem childless_distinct {root : Schema} (childless : root.children = [])
    (bare : root.properties = []) : PropertiesDistinct root := by
  rw [properties_distinct_iff, childless, bare]
  exact ⟨List.nodup_nil, List.forall_mem_nil _⟩

/-! ### What reading passes -/

/-- A node without reference that is an object, by its type or by its properties. -/
def IsObject (entries : Entries) : Prop :=
  entries.present? "$ref" = none ∧ isObjectNode entries = true

/-- A node without reference whose first type name is that of arrays. -/
def IsArray (entries : Entries) : Prop :=
  entries.present? "$ref" = none ∧ isObjectNode entries = false ∧
    (typeNames entries).head? = some ("array" : Text)

/-- A mapping of properties in a value, at a place that reading comes to. -/
inductive Reads : Value → Entries → Prop
  | here {entries children : Entries} (object : IsObject entries)
      (found : entries.get? "properties" = some (.map children)) : Reads (.map entries) children
  | property {entries children deeper : Entries} {child : Scalar × Value}
      (object : IsObject entries) (found : entries.get? "properties" = some (.map children))
      (member : child ∈ children) (below : Reads child.2 deeper) : Reads (.map entries) deeper
  | items {entries deeper : Entries} {item : Value} (array : IsArray entries)
      (found : entries.get? "items" = some item) (below : Reads item deeper) :
      Reads (.map entries) deeper

/-- No mapping of properties that reading comes to has keys that are spelled alike. -/
def ReadsDistinct (value : Value) : Prop := ∀ entries, Reads value entries → entries.names.Nodup

/-- What one mapping is read as. -/
inductive ReadAs (location : Location) (entries : Entries) : Schema → Prop
  | reference (pointer : Text) (referred : entries.present? "$ref" = some (.text pointer)) :
      ReadAs location entries (.reference pointer)
  | bare (object : IsObject entries)
      (unnamed : ∀ children, entries.get? "properties" ≠ some (.map children)) :
      ReadAs location entries (.object [] [])
  | object {children : Entries} {nodes : Definitions} {required : List Text}
      (object : IsObject entries) (found : entries.get? "properties" = some (.map children))
      (read : childrenOf (fun name => location.child (.property name)) children = .ok nodes)
      (needed : requiredNames location entries = .ok required) :
      ReadAs location entries (.object nodes required)
  | openArray (array : IsArray entries)
      (absent : ∀ item, entries.get? "items" = some item → item.isNull = true) :
      ReadAs location entries (.array (.unknown none))
  | array {item : Value} {node : Schema} (array : IsArray entries)
      (found : entries.get? "items" = some item)
      (read : ofValue (location.child .items) item = .ok node) :
      ReadAs location entries (.array node)
  | leaf {schema : Schema} (plain : ¬ IsObject entries ∧ ¬ IsArray entries)
      (childless : schema.children = [] ∧ schema.properties = []) :
      ReadAs location entries schema

variable {location : Location} {entries : Entries} {schema : Schema}

theorem get_cons (key : Scalar) (value : Value) (rest : Entries) (name : Text) :
    Entries.get? ((key, value) :: rest) name =
      if isTextKey name key then some value else Entries.get? rest name := by
  cases key with
  | text other =>
      by_cases same : (other == name) = true
      · simp [Entries.get?, isTextKey, same]
      · simp [Entries.get?, isTextKey, same]
  | null | bool | int | float | nan | date | moment | bytes => rfl

theorem properties_in_eq (location : Location) (entries : Entries) :
    propertiesIn location entries =
      match entries.get? "properties" with
      | none => .ok none
      | some value => propertiesOf location value := by
  induction entries with
  | nil => rfl
  | cons entry rest induction =>
      obtain ⟨key, value⟩ := entry
      rw [propertiesIn, get_cons]
      by_cases named : isTextKey "properties" key = true
      · rw [if_pos named, if_pos named]
      · rw [if_neg named, if_neg named, induction]

theorem items_in_eq (location : Location) (entries : Entries) :
    itemsIn location entries =
      match entries.get? "items" with
      | none => .ok (.unknown none)
      | some value =>
        if value.isNull then .ok (.unknown none) else ofValue (location.child .items) value := by
  induction entries with
  | nil => rfl
  | cons entry rest induction =>
      obtain ⟨key, value⟩ := entry
      rw [itemsIn, get_cons]
      by_cases named : isTextKey "items" key = true
      · rw [if_pos named, if_pos named]
      · rw [if_neg named, if_neg named, induction]

theorem properties_read {found : Option Definitions}
    (read : propertiesIn location entries = .ok found) :
    (found = none ∧ ∀ children, entries.get? "properties" ≠ some (.map children)) ∨
    ∃ children nodes, entries.get? "properties" = some (.map children) ∧
      childrenOf (fun name => location.child (.property name)) children = .ok nodes ∧
      found = some nodes := by
  rw [properties_in_eq] at read
  split at read
  · rename_i absent
    refine Or.inl ⟨(Except.ok.inj read).symm, fun children there => ?_⟩
    cases absent.symm.trans there
  · rename_i value there
    unfold propertiesOf at read
    split at read
    · refine Or.inl ⟨(Except.ok.inj read).symm, fun children again => ?_⟩
      cases there.symm.trans again
    · rename_i children
      obtain ⟨nodes, childrenRead, same⟩ := map_ok read
      exact Or.inr ⟨children, nodes, there, childrenRead, same.symm⟩
    · cases read

theorem items_read (read : itemsIn location entries = .ok schema) :
    (schema = .unknown none ∧ ∀ item, entries.get? "items" = some item → item.isNull = true) ∨
    ∃ item, entries.get? "items" = some item ∧
      ofValue (location.child .items) item = .ok schema := by
  rw [items_in_eq] at read
  split at read
  · rename_i absent
    refine Or.inl ⟨(Except.ok.inj read).symm, fun item there => ?_⟩
    cases absent.symm.trans there
  · rename_i item there
    split at read
    · rename_i null
      refine Or.inl ⟨(Except.ok.inj read).symm, fun again found => ?_⟩
      rw [← Option.some.inj (there.symm.trans found)]
      exact null
    · exact Or.inr ⟨item, there, read⟩

theorem leaf_childless (name : Text) (entries : Entries) :
    (leafNode name entries).children = [] ∧ (leafNode name entries).properties = [] := by
  unfold leafNode
  split
  · exact ⟨rfl, rfl⟩
  · exact ⟨rfl, rfl⟩

theorem read_as (read : ofValue location (.map entries) = .ok schema) :
    ReadAs location entries schema := by
  unfold ofValue at read
  split at read
  case h_1 pointer referred =>
    rw [← Except.ok.inj read]
    exact .reference pointer referred
  case h_2 => cases read
  case h_3 plain =>
    split at read
    · rename_i object
      obtain ⟨found, propertiesRead, read⟩ := bind_ok read
      rcases properties_read propertiesRead with
        ⟨rfl, unnamed⟩ | ⟨children, nodes, there, childrenRead, rfl⟩
      · rw [← Except.ok.inj read]
        exact .bare ⟨plain, object⟩ unnamed
      · obtain ⟨required, needed, read⟩ := bind_ok read
        rw [← Except.ok.inj read]
        exact .object ⟨plain, object⟩ there childrenRead needed
    · rename_i other
      rw [Bool.not_eq_true] at other
      have notObject : ¬ IsObject entries := fun object => nomatch other.symm.trans object.2
      split at read
      · rename_i untyped
        rw [← Except.ok.inj read]
        refine .leaf ⟨notObject, fun array => ?_⟩ ⟨rfl, rfl⟩
        have first := array.2.2
        rw [untyped] at first
        cases first
      · rename_i name others typed
        split at read
        · rename_i array
          have isArray : IsArray entries := ⟨plain, other, by rw [typed, array]; rfl⟩
          obtain ⟨node, itemsRead, same⟩ := map_ok read
          rw [← same]
          rcases items_read itemsRead with ⟨rfl, absent⟩ | ⟨item, there, itemRead⟩
          · exact .openArray isArray absent
          · exact .array isArray there itemRead
        · rename_i otherType
          rw [← Except.ok.inj read]
          refine .leaf ⟨notObject, fun array => ?_⟩ (leaf_childless name entries)
          have first := array.2.2
          rw [typed] at first
          exact otherType (Option.some.inj first)

/-- Some nodes read from entries: one for each, in order, under the name of its key. -/
def OneEach (locate : Text → Location) (entries : Entries) (nodes : Definitions) : Prop :=
  List.Forall₂ (fun entry node => node.1 = entry.1.nameText ∧
    ofValue (locate entry.1.nameText) entry.2 = .ok node.2) entries nodes

theorem children_read {locate : Text → Location} {nodes : Definitions}
    (read : childrenOf locate entries = .ok nodes) : OneEach locate entries nodes := by
  induction entries generalizing nodes with
  | nil =>
      rw [childrenOf] at read
      rw [← Except.ok.inj read]
      exact .nil
  | cons entry rest induction =>
      obtain ⟨key, value⟩ := entry
      rw [childrenOf] at read
      obtain ⟨node, first, read⟩ := bind_ok read
      obtain ⟨others, later, read⟩ := bind_ok read
      rw [← Except.ok.inj read]
      exact .cons ⟨rfl, first⟩ (induction later)

theorem OneEach.keys {locate : Text → Location} {nodes : Definitions}
    (each : OneEach locate entries nodes) : Table.keys nodes = entries.names := by
  induction each with
  | nil => rfl
  | cons first rest induction =>
      rw [Entries.names, List.map_cons, ← first.1, Table.keys, List.map_cons]
      exact congrArg _ induction

theorem OneEach.forall_iff {locate : Text → Location} {nodes : Definitions}
    {holds : Schema → Prop} {expects : Value → Prop} (each : OneEach locate entries nodes)
    (same : ∀ entry ∈ entries, ∀ location node, ofValue location entry.2 = .ok node →
      (holds node ↔ expects entry.2)) :
    (∀ node ∈ nodes.map (·.2), holds node) ↔ ∀ entry ∈ entries, expects entry.2 := by
  induction each with
  | nil => exact iff_of_true (List.forall_mem_nil _) (List.forall_mem_nil _)
  | cons first rest induction =>
      rw [List.map_cons, List.forall_mem_cons, List.forall_mem_cons]
      rw [List.forall_mem_cons] at same
      rw [same.1 _ _ first.2, induction same.2]

/-! ### Distinct names after reading -/

theorem reads_object {children : Entries} (object : IsObject entries)
    (found : entries.get? "properties" = some (.map children)) :
    ReadsDistinct (.map entries) ↔
      children.names.Nodup ∧ ∀ child ∈ children, ReadsDistinct child.2 := by
  constructor
  · exact fun distinct => ⟨distinct children (.here object found), fun child member deeper below =>
      distinct deeper (.property object found member below)⟩
  · rintro ⟨here, below⟩ deeper reads
    cases reads with
    | here _ again =>
        cases found.symm.trans again
        exact here
    | property _ again member inner =>
        cases found.symm.trans again
        exact below _ member _ inner
    | items array => cases object.2.symm.trans array.2.1

theorem reads_array {item : Value} (array : IsArray entries)
    (found : entries.get? "items" = some item) :
    ReadsDistinct (.map entries) ↔ ReadsDistinct item := by
  constructor
  · exact fun distinct deeper below => distinct deeper (.items array found below)
  · intro distinct deeper reads
    cases reads with
    | here object | property object => cases object.2.symm.trans array.2.1
    | items _ again below =>
        cases found.symm.trans again
        exact distinct deeper below

theorem reads_nothing (noProperties : IsObject entries →
      ∀ children, entries.get? "properties" ≠ some (.map children))
    (noItems : IsArray entries → ∀ item, entries.get? "items" = some item → item.isNull = true) :
    ReadsDistinct (.map entries) := by
  intro deeper reads
  cases reads with
  | here object found | property object found => exact absurd found (noProperties object _)
  | items array found below =>
      have null := noItems array _ found
      cases below <;> cases null

theorem member_size {entry : Scalar × Value} (member : entry ∈ entries) :
    sizeOf entry.2 < sizeOf (Value.map entries) := by
  have smaller := List.sizeOf_lt_of_mem member
  obtain ⟨key, value⟩ := entry
  simp only [Prod.mk.sizeOf_spec, Value.map.sizeOf_spec] at smaller ⊢
  omega

theorem get_size {name : Text} {value : Value} (found : entries.get? name = some value) :
    sizeOf value < sizeOf (Value.map entries) := by
  obtain ⟨entry, held, rfl⟩ := Option.map_eq_some_iff.mp found
  exact member_size (List.mem_of_find?_eq_some held)

/-- A schema that is read names no property twice just if no mapping of properties that reading
comes to has keys that are spelled alike. -/
theorem distinct_iff_reads {value : Value} (read : ofValue location value = .ok schema) :
    PropertiesDistinct schema ↔ ReadsDistinct value := by
  -- the induction is on the size of the value, since properties lie two mappings below their object
  induction size : sizeOf value using Nat.strongRecOn generalizing location value schema with
  | ind bound induction =>
  subst size
  cases value with
  | scalar | list | set | pair =>
      unfold ofValue at read
      cases read
  | map entries =>
      cases read_as read with
      | reference pointer referred =>
          refine iff_of_true (childless_distinct rfl rfl) (reads_nothing ?_ ?_)
          · exact fun object => nomatch referred.symm.trans object.1
          · exact fun array => nomatch referred.symm.trans array.1
      | bare object unnamed =>
          refine iff_of_true (childless_distinct rfl rfl) (reads_nothing (fun _ => unnamed) ?_)
          exact fun array => nomatch object.2.symm.trans array.2.1
      | @object children nodes required object found childrenRead needed =>
          have each := children_read childrenRead
          rw [properties_distinct_iff, reads_object object found, ← each.keys]
          refine and_congr Iff.rfl (each.forall_iff fun child member _ _ childRead => ?_)
          exact induction _ ((member_size member).trans (get_size found)) childRead rfl
      | openArray array absent =>
          refine iff_of_true ?_ (reads_nothing ?_ fun _ => absent)
          · rw [properties_distinct_iff]
            exact ⟨List.nodup_nil, List.forall_mem_singleton.mpr (childless_distinct rfl rfl)⟩
          · exact fun object => nomatch object.2.symm.trans array.2.1
      | array array found itemRead =>
          have below := induction _ (get_size found) itemRead rfl
          rw [properties_distinct_iff, reads_array array found, ← below]
          exact ⟨fun distinct => List.forall_mem_singleton.mp distinct.2,
            fun distinct => ⟨List.nodup_nil, List.forall_mem_singleton.mpr distinct⟩⟩
      | leaf plain childless =>
          refine iff_of_true (childless_distinct childless.1 childless.2) (reads_nothing ?_ ?_)
          · exact fun object => absurd object plain.1
          · exact fun array => absurd array plain.2

/-! ### What inference passes -/

/-- A mapping in an example, at a place that inference comes to. -/
inductive Shows : Value → Entries → Prop
  | here (entries : Entries) : Shows (.map entries) entries
  | entry {entries deeper : Entries} {entry : Scalar × Value} (member : entry ∈ entries)
      (below : Shows entry.2 deeper) : Shows (.map entries) deeper
  | first {first : Value} {rest : List Value} {deeper : Entries} (below : Shows first deeper) :
      Shows (.list (first :: rest)) deeper

/-- No mapping that inference comes to has keys that are spelled alike. -/
def ShowsDistinct (value : Value) : Prop := ∀ entries, Shows value entries → entries.names.Nodup

theorem infer_entries_eq_map (entries : Entries) :
    inferEntries entries = entries.map fun entry => (entry.1.nameText, infer entry.2) := by
  induction entries with
  | nil => rfl
  | cons entry rest induction =>
      rw [inferEntries, induction]
      rfl

theorem infer_entries_keys (entries : Entries) :
    Table.keys (inferEntries entries) = entries.names :=
  infer_entries_names entries

/-- An inferred schema names no property twice just if no mapping that inference comes to has keys
that are spelled alike. -/
theorem distinct_iff_shows (value : Value) :
    PropertiesDistinct (infer value) ↔ ShowsDistinct value := by
  induction size : sizeOf value using Nat.strongRecOn generalizing value with
  | ind bound induction =>
  subst size
  cases value with
  | scalar scalar =>
      refine iff_of_true (by rw [infer]; exact childless_distinct rfl rfl) ?_
      exact fun _ shows => nomatch shows
  | set members =>
      refine iff_of_true (by rw [infer]; exact childless_distinct rfl rfl) ?_
      exact fun _ shows => nomatch shows
  | pair first second =>
      refine iff_of_true (by rw [infer]; exact childless_distinct rfl rfl) ?_
      exact fun _ shows => nomatch shows
  | list items =>
      cases items with
      | nil =>
          refine iff_of_true ?_ fun _ shows => nomatch shows
          rw [infer, properties_distinct_iff]
          exact ⟨List.nodup_nil, List.forall_mem_singleton.mpr (childless_distinct rfl rfl)⟩
      | cons first rest =>
          have smaller : sizeOf first < sizeOf (Value.list (first :: rest)) := by
            simp only [Value.list.sizeOf_spec, List.cons.sizeOf_spec]
            omega
          have below := induction _ smaller first rfl
          rw [infer, properties_distinct_iff]
          constructor
          · intro distinct deeper shows
            cases shows with
            | first inner =>
                exact below.mp (List.forall_mem_singleton.mp distinct.2) deeper inner
          · intro distinct
            refine ⟨List.nodup_nil, List.forall_mem_singleton.mpr (below.mpr ?_)⟩
            exact fun deeper inner => distinct deeper (.first inner)
  | map entries =>
      have below (entry : Scalar × Value) (member : entry ∈ entries) :=
        induction _ (member_size member) entry.2 rfl
      have listed : (infer (.map entries)).children = entries.map fun entry => infer entry.2 := by
        rw [infer, children, infer_entries_eq_map, List.map_map]
        rfl
      have named : Table.keys (infer (.map entries)).properties = Entries.names entries := by
        rw [infer]
        exact infer_entries_keys entries
      rw [properties_distinct_iff, listed, named, List.forall_mem_map]
      constructor
      · rintro ⟨here, children⟩ deeper shows
        cases shows with
        | here => exact here
        | entry member inner => exact (below _ member).mp (children _ member) deeper inner
      · intro distinct
        refine ⟨distinct entries (.here entries), fun entry member => (below entry member).mpr ?_⟩
        exact fun deeper inner => distinct deeper (.entry member inner)

theorem Shows.within {value : Value} (shows : Shows value entries) :
    (infer value).Within (infer (.map entries)) := by
  induction shows with
  | here => exact .self
  | @entry entries deeper entry member below induction =>
      refine (Within.self.child ?_).trans induction
      rw [infer, children, infer_entries_eq_map, List.map_map]
      exact List.mem_map_of_mem member
  | first below induction =>
      refine (Within.self.child ?_).trans induction
      rw [infer, children]
      exact List.mem_singleton_self _

/-! ### Required names -/

theorem mem_example_required {name : Text} :
    name ∈ exampleRequired entries ↔
      ∃ entry ∈ entries, entry.2.isNull = false ∧ entry.1.nameText = name := by
  rw [exampleRequired, mem_name_set, List.mem_map]
  simp only [List.mem_filter, Bool.not_eq_true', and_assoc]

/-- Keys that are spelled alike have null under both or under none. -/
def NullsAgree (entries : Entries) : Prop :=
  ∀ entry ∈ entries, ∀ other ∈ entries, entry.1.nameText = other.1.nameText →
    entry.2.isNull = other.2.isNull

/-- Every property is required by its own value alone just if keys that are spelled alike agree. -/
theorem required_by_own_value_iff (entries : Entries) :
    (∀ entry ∈ entries, entry.1.nameText ∈ exampleRequired entries ↔ entry.2.isNull = false) ↔
      NullsAgree entries := by
  constructor
  · intro own entry member other otherMember same
    rw [Bool.eq_iff_iff, ← not_iff_not, Bool.not_eq_true, Bool.not_eq_true, ← own entry member,
      ← own other otherMember, same]
  · intro agree entry member
    rw [mem_example_required]
    constructor
    · rintro ⟨other, otherMember, present, same⟩
      rw [agree entry member other otherMember same.symm]
      exact present
    · exact fun present => ⟨entry, member, present, rfl⟩

end Schema

end DtoForge
