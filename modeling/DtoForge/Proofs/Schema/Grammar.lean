import DtoForge.Proofs.Schema.Fragments
import Mathlib.Data.List.Lex

/-!
The grammar of schemas in documents, said without reading them: which fragments belong to a schema,
what each of them has to be, and where it offends. Every offence has a number for each child on the
way to its fragment and one within the fragment; by these lists of numbers, compared from the front,
offences stand in the order of the document. The required names of an object stand behind all of its
properties.
-/

namespace DtoForge

open Document

namespace Schema

/-! ### Kinds of nodes -/

def HasTypeName (entries : Entries) (name : Text) : Prop :=
  entries.get? "type" = some (.text name) ∨
    ∃ items, entries.get? "type" = some (.list items) ∧ .text name ∈ items ∧ name ≠ "null"

def FirstTypeName (entries : Entries) (name : Text) : Prop :=
  entries.get? "type" = some (.text name) ∨
    ∃ before behind, entries.get? "type" = some (.list (before ++ .text name :: behind)) ∧
      name ≠ "null" ∧ ∀ other : Text, .text other ∈ before → other = "null"

def Unreferenced (entries : Entries) : Prop :=
  ∀ value, entries.get? "$ref" = some value → value = .null

/-- An object by a type name, or by having properties without having a type name. -/
def DescribesObject (entries : Entries) : Prop :=
  HasTypeName entries "object" ∨
    (∀ name, ¬ HasTypeName entries name) ∧ ∃ value, entries.get? "properties" = some value

structure ObjectNode (entries : Entries) : Prop where
  unreferenced : Unreferenced entries
  object : DescribesObject entries

structure ArrayNode (entries : Entries) : Prop where
  unreferenced : Unreferenced entries
  other : ¬ DescribesObject entries
  array : FirstTypeName entries "array"

/-- A list, or a value that is used as one. A text is not. -/
inductive IsSequence : Value → Prop
  | list (items : List Value) : IsSequence (.list items)
  | bytes (bytes : List UInt8) : IsSequence (.scalar (.bytes bytes))
  | pair (first second : Value) : IsSequence (.pair first second)

/-! ### Fragments -/

/-- From a fragment to one of the fragments right below it, which has this number. -/
inductive Below : Location → Value → Nat → Location → Value → Prop
  | property {location : Location} {entries children : Entries} {index : Nat} {key : Scalar}
      {child : Value} (object : ObjectNode entries)
      (found : entries.get? "properties" = some (.map children))
      (stands : children[index]? = some (key, child)) :
      Below location (.map entries) (index + 1) (location.child (.property key.nameText)) child
  | items {location : Location} {entries : Entries} {item : Value} (array : ArrayNode entries)
      (found : entries.get? "items" = some item) (present : item ≠ .null) :
      Below location (.map entries) 1 (location.child .items) item

/-- The fragments of a schema, each with the numbers on the way to it and with its place. -/
inductive Visits : Location → Value → List Nat → Location → Value → Prop
  | root (location : Location) (value : Value) : Visits location value [] location value
  | step {location inner place : Location} {value child fragment : Value} {number : Nat}
      {path : List Nat} (first : Below location value number inner child)
      (rest : Visits inner child path place fragment) :
      Visits location value (number :: path) place fragment

structure FitsObject (entries : Entries) : Prop where
  properties : ∀ value, entries.get? "properties" = some value →
    value = .null ∨ ∃ children, value = .map children
  required : ∀ children value, entries.get? "properties" = some (.map children) →
    entries.get? "required" = some value → value = .null ∨ IsSequence value

inductive WellFormed : Value → Prop
  | node {entries : Entries}
      (reference : ∀ value, entries.get? "$ref" = some value →
        value = .null ∨ ∃ pointer, value = .text pointer)
      (object : ObjectNode entries → FitsObject entries) : WellFormed (.map entries)

/-! ### Offences -/

/-- What is wrong with one fragment, with a number that tells how far in the fragment. -/
inductive Offends : Value → SchemaOffence → Nat → Prop
  | node {value : Value} (shape : ∀ entries, value ≠ .map entries) : Offends value .node 0
  | reference {entries : Entries} {value : Value} (found : entries.get? "$ref" = some value)
      (present : value ≠ .null) (shape : ∀ pointer, value ≠ .text pointer) :
      Offends (.map entries) .reference 0
  | properties {entries : Entries} {value : Value} (object : ObjectNode entries)
      (found : entries.get? "properties" = some value) (present : value ≠ .null)
      (shape : ∀ children, value ≠ .map children) : Offends (.map entries) .properties 0
  | required {entries children : Entries} {value : Value} (object : ObjectNode entries)
      (found : entries.get? "properties" = some (.map children))
      (needed : entries.get? "required" = some value) (present : value ≠ .null)
      (shape : ¬ IsSequence value) : Offends (.map entries) .required (children.length + 1)

structure Offence where
  order : List Nat
  kind : SchemaOffence
  place : Location

/-- The same offence seen from one level further up. -/
def Offence.under (number : Nat) (offence : Offence) : Offence :=
  { offence with order := number :: offence.order }

def OffendsAt (location : Location) (value : Value) (offence : Offence) : Prop :=
  ∃ path fragment number, Visits location value path offence.place fragment ∧
    Offends fragment offence.kind number ∧ offence.order = path ++ [number]

/-- An offence stands further up in the document. -/
def Offence.Before (left right : Offence) : Prop := List.Lex (· < ·) left.order right.order

/-- The offence that no other stands before. -/
structure FirstOffence (location : Location) (value : Value) (offence : Offence) : Prop where
  stands : OffendsAt location value offence
  least : ∀ other, OffendsAt location value other → ¬ other.Before offence

variable {location place place' : Location} {entries : Entries} {value fragment fragment' : Value}
  {number : Nat} {path : List Nat}

theorem well_formed_iff :
    WellFormed value ↔ ∀ kind number, ¬ Offends value kind number := by
  constructor
  · rintro ⟨reference, object⟩ kind number offends
    cases offends with
    | node shape => exact shape _ rfl
    | reference found present shape =>
        rcases reference _ found with null | ⟨pointer, text⟩
        · exact present null
        · exact shape pointer text
    | properties isObject found present shape =>
        rcases (object isObject).properties _ found with null | ⟨children, map⟩
        · exact present null
        · exact shape children map
    | required isObject found needed present shape =>
        rcases (object isObject).required _ _ found needed with null | sequence
        · exact present null
        · exact shape sequence
  · intro clean
    cases value with
    | scalar | list | set | pair => exact absurd (.node (fun _ => nofun)) (clean .node 0)
    | map entries =>
        constructor
        · intro value found
          by_contra wrong
          obtain ⟨present, shape⟩ := not_or.mp wrong
          exact clean _ _ (.reference found present fun pointer text => shape ⟨pointer, text⟩)
        · intro object
          constructor
          · intro value found
            by_contra wrong
            obtain ⟨present, shape⟩ := not_or.mp wrong
            exact clean _ _ (.properties object found present fun children map =>
              shape ⟨children, map⟩)
          · intro children value found needed
            by_contra wrong
            obtain ⟨present, shape⟩ := not_or.mp wrong
            exact clean _ _ (.required object found needed present shape)

theorem all_well_formed_iff :
    (∀ path place fragment, Visits location value path place fragment → WellFormed fragment) ↔
      ∀ offence, ¬ OffendsAt location value offence := by
  constructor
  · rintro fit offence ⟨path, fragment, number, visits, offends, -⟩
    exact well_formed_iff.mp (fit _ _ _ visits) _ _ offends
  · intro clean path place fragment visits
    rw [well_formed_iff]
    intro kind number offends
    exact clean ⟨path ++ [number], kind, place⟩ ⟨path, fragment, number, visits, offends, rfl⟩

theorem offends_at_iff {offence : Offence} :
    OffendsAt location value offence ↔
      (∃ number, Offends value offence.kind number ∧ offence = ⟨[number], offence.kind, location⟩) ∨
        ∃ number inner child other, Below location value number inner child ∧
          OffendsAt inner child other ∧ offence = other.under number := by
  constructor
  · rintro ⟨path, fragment, rank, visits, offends, order⟩
    obtain ⟨_, kind, place⟩ := offence
    dsimp only at visits offends order
    subst order
    cases visits with
    | root => exact Or.inl ⟨rank, offends, rfl⟩
    | @step _ inner _ _ child _ number path first rest =>
        exact Or.inr ⟨number, inner, child, ⟨path ++ [rank], kind, place⟩, first,
          ⟨path, fragment, rank, rest, offends, rfl⟩, rfl⟩
  · rintro (⟨number, offends, same⟩ | ⟨number, inner, child, other, first, below, same⟩)
    · rw [same]
      exact ⟨[], value, number, .root location value, offends, rfl⟩
    · obtain ⟨path, fragment, rank, visits, offends, order⟩ := below
      rw [same]
      exact ⟨number :: path, fragment, rank, .step first visits, offends,
        congrArg (number :: ·) order⟩

/-! ### One offence at one point -/

theorem Below.unique {inner inner' : Location} {child child' : Value}
    (below : Below location value number inner child)
    (again : Below location value number inner' child') : inner = inner' ∧ child = child' := by
  cases below with
  | property object found stands =>
      cases again with
      | property _ found' stands' =>
          cases found.symm.trans found'
          cases stands.symm.trans stands'
          exact ⟨rfl, rfl⟩
      | items array => exact absurd object.object array.other
  | items array found =>
      cases again with
      | property object => exact absurd object.object array.other
      | items _ found' =>
          cases found.symm.trans found'
          exact ⟨rfl, rfl⟩

theorem Visits.unique (visits : Visits location value path place fragment)
    (again : Visits location value path place' fragment') :
    place = place' ∧ fragment = fragment' := by
  induction visits with
  | root =>
      cases again
      exact ⟨rfl, rfl⟩
  | step first rest induction =>
      cases again with
      | step first' rest' =>
          obtain ⟨rfl, rfl⟩ := first.unique first'
          exact induction rest'

theorem Offends.unique {kind kind' : SchemaOffence} (offends : Offends value kind number)
    (again : Offends value kind' number) : kind = kind' := by
  cases offends with
  | node shape =>
      cases again with
      | node => rfl
      | reference | properties => exact absurd rfl (shape _)
  | reference found present =>
      cases again with
      | node shape => exact absurd rfl (shape _)
      | reference => rfl
      | properties object => exact absurd (object.unreferenced _ found) present
  | properties object =>
      cases again with
      | node shape => exact absurd rfl (shape _)
      | reference found present => exact absurd (object.unreferenced _ found) present
      | properties => rfl
  | required =>
      generalize stands : _ + 1 = number at again
      cases again with
      | node | reference | properties => cases stands
      | required => rfl

/-- Nothing else offends at the same point, so there is one first offence at most. -/
theorem FirstOffence.unique {first second : Offence} (here : FirstOffence location value first)
    (there : FirstOffence location value second) : first = second := by
  have order : first.order = second.order :=
    Std.Trichotomous.trichotomous _ _ (there.least first here.stands)
      (here.least second there.stands)
  obtain ⟨path, fragment, number, visits, offends, ordered⟩ := here.stands
  obtain ⟨path', fragment', number', visits', offends', ordered'⟩ := there.stands
  rw [ordered, ordered'] at order
  obtain ⟨rfl, same⟩ := List.append_inj' order rfl
  cases same
  obtain ⟨samePlace, rfl⟩ := visits.unique visits'
  have sameKind := offends.unique offends'
  cases first
  cases second
  dsimp only at ordered ordered' samePlace sameKind
  rw [ordered, ordered', samePlace, sameKind]

/-! ### The kinds as reading tells them -/

theorem is_null_iff : value.isNull = true ↔ value = .null := by
  unfold Value.isNull
  split
  · exact iff_of_true rfl rfl
  · rename_i other
    exact iff_of_false nofun other

theorem unreferenced_iff : Unreferenced entries ↔ entries.present? "$ref" = none := by
  unfold Unreferenced Entries.present?
  cases entries.get? "$ref" with
  | none => simp
  | some value => simp [is_null_iff]

theorem mem_type_names {name : Text} : name ∈ typeNames entries ↔ HasTypeName entries name := by
  unfold typeNames HasTypeName
  split
  · rename_i found
    simp [found, eq_comm]
  · rename_i items found
    rw [found, List.mem_filterMap]
    constructor
    · rintro ⟨item, member, named⟩
      split at named
      · split at named
        · cases named
        · rename_i notNull
          cases named
          exact Or.inr ⟨items, rfl, member, notNull⟩
      · cases named
    · rintro (text | ⟨_, same, member, notNull⟩)
      · cases text
      · cases same
        exact ⟨.text name, member, by simp [notNull]⟩
  · rename_i noText noList
    refine iff_of_false List.not_mem_nil ?_
    rintro (text | ⟨items, list, -⟩)
    · exact noText name text
    · exact noList items list

theorem head_type_names {name : Text} :
    (typeNames entries).head? = some name ↔ FirstTypeName entries name := by
  unfold typeNames FirstTypeName
  split
  · rename_i found
    simp [found]
  · rename_i items found
    rw [found, List.head?_filterMap, List.findSome?_eq_some_iff]
    constructor
    · rintro ⟨before, item, behind, cut, named, unnamed⟩
      split at named
      · split at named
        · cases named
        · rename_i notNull
          cases named
          refine Or.inr ⟨before, behind, by rw [cut], notNull, fun other member => ?_⟩
          by_contra notNull'
          simpa [notNull'] using unnamed _ member
      · cases named
    · rintro (text | ⟨before, behind, same, notNull, nulls⟩)
      · cases text
      · cases same
        refine ⟨before, .text name, behind, rfl, by simp [notNull], fun item member => ?_⟩
        split
        · rw [if_pos (nulls _ member)]
        · rfl
  · rename_i noText noList
    refine iff_of_false nofun ?_
    rintro (text | ⟨before, behind, list, -⟩)
    · exact noText name text
    · exact noList _ list

theorem is_object_node_iff : isObjectNode entries = true ↔ DescribesObject entries := by
  unfold isObjectNode DescribesObject
  rw [Bool.or_eq_true, List.contains_iff_mem, mem_type_names, Bool.and_eq_true,
    List.isEmpty_iff, List.eq_nil_iff_forall_not_mem]
  refine or_congr Iff.rfl (and_congr (forall_congr' fun name => not_congr mem_type_names) ?_)
  exact Option.isSome_iff_exists

end Schema

end DtoForge
