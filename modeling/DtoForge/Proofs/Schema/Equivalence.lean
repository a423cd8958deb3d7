import DtoForge.Proofs.Schema.NameSet
import DtoForge.Proofs.Schema.Shape
import Mathlib.Data.List.Sort

/-!
Structural equivalence of schemas: the order of properties and of required names does not count,
everything else does. Equivalent schemas have the same signature, because sorting forgets just the
order. A signature does not tell a character from its two surrogates, so schemas of the same
signature are spelled alike, as far as the digest does not collide on the nodes of the two; they are
equivalent where units tell the texts in them apart.
-/

namespace DtoForge

namespace Schema

/-! ### Sorting by name -/

def SortedByName {α : Type} (entries : List (Text × α)) : Prop :=
  entries.Pairwise fun earlier later => earlier.1 ≤ later.1

theorem insert_by_name_sorted {α : Type} (entry : Text × α) (entries : List (Text × α))
    (sorted : SortedByName entries) : SortedByName (insertByName entry entries) := by
  induction entries with
  | nil => exact List.pairwise_singleton _ _
  | cons other rest induction =>
      obtain ⟨above, sortedRest⟩ := List.pairwise_cons.mp sorted
      unfold insertByName
      split
      · rename_i before
        refine List.pairwise_cons.mpr ⟨?_, induction sortedRest⟩
        intro later member
        rcases List.mem_cons.mp ((insert_by_name_perm entry rest).subset member) with rfl | member
        · exact before.le
        · exact above later member
      · rename_i notBefore
        refine List.pairwise_cons.mpr ⟨?_, sorted⟩
        intro later member
        rcases List.mem_cons.mp member with rfl | member
        · exact not_lt.mp notBefore
        · exact (not_lt.mp notBefore).trans (above later member)

theorem sort_by_name_sorted {α : Type} (entries : List (Text × α)) :
    SortedByName (sortByName entries) := by
  induction entries with
  | nil => exact List.Pairwise.nil
  | cons entry rest induction => exact insert_by_name_sorted entry (sortByName rest) induction

/-- Where no name comes twice, the order before sorting leaves no trace. -/
theorem sort_by_name_congr {α : Type} {left right : List (Text × α)} (same : left.Perm right)
    (distinct : (Table.keys left).Nodup) : sortByName left = sortByName right := by
  have sortedSame : (sortByName left).Perm (sortByName right) :=
    (sort_by_name_perm left).trans (same.trans (sort_by_name_perm right).symm)
  refine sortedSame.eq_of_pairwise ?_ (sort_by_name_sorted left) (sort_by_name_sorted right)
  intro first second firstHeld secondHeld below above
  have firstMember := (sort_by_name_perm left).subset firstHeld
  have secondMember := (sort_by_name_perm left).subset (sortedSame.symm.subset secondHeld)
  exact List.inj_on_of_nodup_map distinct firstMember secondMember (le_antisymm below above)

theorem insert_by_name_map {α β : Type} (f : α → β) (entry : Text × α)
    (entries : List (Text × α)) :
    insertByName (entry.1, f entry.2) (entries.map fun other => (other.1, f other.2)) =
      (insertByName entry entries).map fun other => (other.1, f other.2) := by
  induction entries with
  | nil => rfl
  | cons other rest induction =>
      rw [List.map_cons, insertByName, insertByName]
      split
      · rw [induction, List.map_cons]
      · rw [List.map_cons, List.map_cons]

theorem sort_by_name_map {α β : Type} (f : α → β) (entries : List (Text × α)) :
    sortByName (entries.map fun entry => (entry.1, f entry.2)) =
      (sortByName entries).map fun entry => (entry.1, f entry.2) := by
  induction entries with
  | nil => rfl
  | cons entry rest induction =>
      rw [List.map_cons, sortByName, List.foldr_cons]
      rw [sortByName] at induction
      rw [induction, insert_by_name_map f entry]
      rfl

/-! ### Equivalent schemas -/

/-- The same up to the order of properties and of required names, at every depth. -/
inductive Equivalent : Schema → Schema → Prop
  | object {properties others : List (Text × Schema)} {required needed : List Text}
      (names : ∀ name, name ∈ Table.keys properties ↔ name ∈ Table.keys others)
      (needs : ∀ name, name ∈ required ↔ name ∈ needed)
      (children : ∀ name child other, (name, child) ∈ properties → (name, other) ∈ others →
        Equivalent child other) :
      Equivalent (.object properties required) (.object others needed)
  | array {items others : Schema} (children : Equivalent items others) :
      Equivalent (.array items) (.array others)
  | primitive (kind : PrimitiveKind) (format : Option Text) :
      Equivalent (.primitive kind format) (.primitive kind format)
  | reference (pointer : Text) : Equivalent (.reference pointer) (.reference pointer)
  | unknown (tag : Option Text) : Equivalent (.unknown tag) (.unknown tag)

/-- No object in the schema names a property twice. -/
def PropertiesDistinct (root : Schema) : Prop :=
  ∀ node, root.Within node → (Table.keys node.properties).Nodup

theorem Within.trans {root middle node : Schema} (outer : root.Within middle)
    (inner : middle.Within node) : root.Within node := by
  induction inner with
  | self => exact outer
  | property _ member induction => exact induction.property member
  | items _ induction => exact induction.items

theorem PropertiesDistinct.within {root node : Schema} (distinct : PropertiesDistinct root)
    (within : root.Within node) : PropertiesDistinct node :=
  fun _ inner => distinct _ (within.trans inner)

theorem signatures_keys (properties : List (Text × Schema)) :
    Table.keys (signatures properties) = Table.keys properties := by
  rw [signatures_eq_map, Table.keys, List.map_map]
  rfl

theorem signatures_mem {properties others : List (Text × Schema)}
    (names : ∀ name ∈ Table.keys properties, name ∈ Table.keys others)
    (children : ∀ name child other, (name, child) ∈ properties → (name, other) ∈ others →
      child.signature = other.signature)
    {entry : Text × Text} (member : entry ∈ signatures properties) :
    entry ∈ signatures others := by
  rw [signatures_eq_map] at member ⊢
  obtain ⟨⟨name, child⟩, held, rfl⟩ := List.mem_map.mp member
  obtain ⟨⟨_, other⟩, otherHeld, rfl⟩ :=
    List.mem_map.mp (names name (Table.mem_keys_of_mem _ _ _ held))
  rw [children _ child other held otherHeld]
  exact List.mem_map.mpr ⟨_, otherHeld, rfl⟩

theorem signatures_perm {properties others : List (Text × Schema)}
    (distinct : (Table.keys properties).Nodup) (othersDistinct : (Table.keys others).Nodup)
    (names : ∀ name, name ∈ Table.keys properties ↔ name ∈ Table.keys others)
    (children : ∀ name child other, (name, child) ∈ properties → (name, other) ∈ others →
      child.signature = other.signature) :
    (signatures properties).Perm (signatures others) := by
  rw [← signatures_keys] at distinct othersDistinct
  apply (List.perm_ext_iff_of_nodup (.of_map _ distinct) (.of_map _ othersDistinct)).mpr
  intro entry
  constructor
  · exact signatures_mem (fun name => (names name).mp) children
  · exact signatures_mem (fun name => (names name).mpr) fun name child other held otherHeld =>
      (children name other child otherHeld held).symm

theorem Equivalent.encoding_eq {left right : Schema} (equivalent : Equivalent left right)
    (leftDistinct : PropertiesDistinct left) (rightDistinct : PropertiesDistinct right) :
    left.encoding = right.encoding := by
  induction equivalent with
  | @object properties others required needed names needs children induction =>
      have distinct : (Table.keys properties).Nodup := leftDistinct _ .self
      have same := signatures_perm distinct (rightDistinct _ .self) names
        fun name child other held otherHeld => congrArg digestOf <|
          induction name child other held otherHeld
            (leftDistinct.within (.property .self held))
            (rightDistinct.within (.property .self otherHeld))
      rw [← signatures_keys] at distinct
      have sorted : sortByName (signatures properties) = sortByName (signatures others) :=
        sort_by_name_congr same distinct
      rw [encoding, encoding, sorted, name_set_congr needs]
  | array children induction =>
      rw [encoding, encoding, induction (leftDistinct.within (.items .self))
        (rightDistinct.within (.items .self))]
  | primitive | reference | unknown => rfl

theorem size_property_le {properties : List (Text × Schema)} {property : Text × Schema}
    (member : property ∈ properties) : property.2.size ≤ sizeSum properties := by
  induction properties with
  | nil => cases member
  | cons head rest induction =>
      simp only [sizeSum]
      rcases List.mem_cons.mp member with rfl | later
      · omega
      · have bound := induction later
        omega

theorem size_child_lt {schema child : Schema} (member : child ∈ schema.children) :
    child.size < schema.size := by
  cases schema with
  | object properties required =>
      obtain ⟨property, held, rfl⟩ := List.mem_map.mp member
      have bound := size_property_le held
      rw [Schema.size]
      omega
  | array items =>
      rw [List.mem_singleton.mp member, Schema.size]
      omega
  | primitive | reference | unknown => cases member

theorem keys_perm {properties others : List (Text × Schema)}
    (children : (signatures properties).Perm (signatures others)) :
    (Table.keys properties).Perm (Table.keys others) := by
  rw [← signatures_keys, ← signatures_keys]
  exact children.map Prod.fst

theorem children_of_perm {properties others : List (Text × Schema)}
    (children : (signatures properties).Perm (signatures others))
    (othersDistinct : (Table.keys others).Nodup) :
    (∀ name, name ∈ Table.keys properties ↔ name ∈ Table.keys others) ∧
      ∀ name child other, (name, child) ∈ properties → (name, other) ∈ others →
        child.signature = other.signature := by
  constructor
  · exact fun name => (keys_perm children).mem_iff
  · intro name child other held otherHeld
    obtain ⟨found, foundHeld, same⟩ := property_of_perm children held
    have unique := List.inj_on_of_nodup_map othersDistinct foundHeld otherHeld rfl
    rw [← (Prod.mk.inj unique).2, same]

/-- Where the digest does not collide and units tell the texts apart, nodes of one signature are
equivalent all the way down. -/
theorem equivalent_of_signature {nodes : Schema → Prop} (free : CollisionFree nodes)
    (tell : UnitsTell nodes)
    (closed : ∀ node, nodes node → ∀ child ∈ node.children, nodes child)
    (distinct : ∀ node, nodes node → (Table.keys node.properties).Nodup)
    (left right : Schema) (leftNode : nodes left) (rightNode : nodes right)
    (same : left.signature = right.signature) : Equivalent left right := by
  -- The recursion follows the left schema; the right one has a child wherever the left one has.
  have below (child : Schema) (held : child ∈ left.children) (other : Schema)
      (otherHeld : other ∈ right.children) (sameChild : child.signature = other.signature) :
      Equivalent child other :=
    have smaller := size_child_lt held
    equivalent_of_signature free tell closed distinct child other (closed _ leftNode _ held)
      (closed _ rightNode _ otherHeld) sameChild
  cases alike_of_signature free tell leftNode rightNode same with
  | object children needs =>
      obtain ⟨names, sameChildren⟩ := children_of_perm children (distinct _ rightNode)
      refine .object names needs fun name child other held otherHeld => ?_
      exact below child (List.mem_map_of_mem held) other (List.mem_map_of_mem otherHeld)
        (sameChildren name child other held otherHeld)
  | array sameItems =>
      exact .array (below _ (List.mem_singleton.mpr rfl) _ (List.mem_singleton.mpr rfl) sameItems)
  | primitive kind format => exact .primitive kind format
  | reference pointer => exact .reference pointer
  | unknown tag => exact .unknown tag
termination_by left.size

theorem Within.child {root node child : Schema} (within : root.Within node)
    (member : child ∈ node.children) : root.Within child := by
  cases node with
  | object properties required =>
      obtain ⟨⟨name, _⟩, held, rfl⟩ := List.mem_map.mp member
      exact within.property held
  | array items => exact List.mem_singleton.mp member ▸ within.items
  | primitive | reference | unknown => cases member

/-! ### Schemas spelled alike -/

/-- The same but for characters with their two surrogates apart, at every depth. Names are compared
in ascending order. -/
inductive SpelledAlike : Schema → Schema → Prop
  | object {properties others : List (Text × Schema)} {required needed : List Text}
      (names : (sortByName properties).map (·.1.units) = (sortByName others).map (·.1.units))
      (needs : (nameSet required).map Text.units = (nameSet needed).map Text.units)
      (children : ∀ pair ∈ (sortByName properties).zip (sortByName others),
        SpelledAlike pair.1.2 pair.2.2) :
      SpelledAlike (.object properties required) (.object others needed)
  | array {items others : Schema} (children : SpelledAlike items others) :
      SpelledAlike (.array items) (.array others)
  | primitive (kind : PrimitiveKind) {format other : Option Text}
      (same : format.map Text.units = other.map Text.units) :
      SpelledAlike (.primitive kind format) (.primitive kind other)
  | reference {pointer other : Text} (same : pointer.units = other.units) :
      SpelledAlike (.reference pointer) (.reference other)
  | unknown {tag other : Option Text} (same : tag.map Text.units = other.map Text.units) :
      SpelledAlike (.unknown tag) (.unknown other)

theorem map_pair_eq_iff {α β γ : Type} {f : α → β} {g : α → γ} (left right : List α) :
    (left.map fun a => (f a, g a)) = (right.map fun a => (f a, g a)) ↔
      left.map f = right.map f ∧ ∀ pair ∈ left.zip right, g pair.1 = g pair.2 := by
  induction left generalizing right with
  | nil => cases right <;> simp
  | cons a left induction =>
      cases right with
      | nil => simp
      | cons b right =>
          rw [List.map_cons, List.map_cons, List.cons.injEq, induction, Prod.mk.injEq,
            List.map_cons, List.map_cons, List.cons.injEq, List.zip_cons_cons,
            List.forall_mem_cons]
          exact ⟨fun ⟨⟨heads, children⟩, tails, later⟩ => ⟨⟨heads, tails⟩, children, later⟩,
            fun ⟨⟨heads, tails⟩, children, later⟩ => ⟨⟨heads, children⟩, tails, later⟩⟩

theorem sorted_signatures_iff (properties others : List (Text × Schema)) :
    (sortByName (signatures properties)).map unitEntry =
        (sortByName (signatures others)).map unitEntry ↔
      (sortByName properties).map (·.1.units) = (sortByName others).map (·.1.units) ∧
        ∀ pair ∈ (sortByName properties).zip (sortByName others),
          pair.1.2.signature = pair.2.2.signature := by
  rw [signatures_eq_map, signatures_eq_map, sort_by_name_map, sort_by_name_map, List.map_map,
    List.map_map]
  refine (map_pair_eq_iff (f := fun property : Text × Schema => property.1.units)
    (g := fun property => property.2.signature.units) _ _).trans (and_congr_right fun _ => ?_)
  exact forall₂_congr fun pair _ => signature_units_inj

theorem SpelledAlike.signature_eq {left right : Schema} (alike : SpelledAlike left right) :
    left.signature = right.signature := by
  refine signature_of_kept ((written_alike_iff left right).mp ?_)
  induction alike with
  | object names needs _ induction =>
      refine .object ((sorted_signatures_iff _ _).mpr ⟨names, fun pair held => ?_⟩) needs
      exact signature_of_kept ((written_alike_iff _ _).mp (induction pair held))
  | array _ induction => exact .array (signature_of_kept ((written_alike_iff _ _).mp induction))
  | primitive kind same => exact .primitive kind same
  | reference same => exact .reference same
  | unknown same => exact .unknown same

/-- Where the digest does not collide, nodes of one signature are spelled alike all the way down. -/
theorem spelled_alike_of_signature {nodes : Schema → Prop} (free : CollisionFree nodes)
    (closed : ∀ node, nodes node → ∀ child ∈ node.children, nodes child)
    (left right : Schema) (leftNode : nodes left) (rightNode : nodes right)
    (same : left.signature = right.signature) : SpelledAlike left right := by
  have below (child : Schema) (held : child ∈ left.children) (other : Schema)
      (otherHeld : other ∈ right.children) (sameChild : child.signature = other.signature) :
      SpelledAlike child other :=
    have smaller := size_child_lt held
    spelled_alike_of_signature free closed child other (closed _ leftNode _ held)
      (closed _ rightNode _ otherHeld) sameChild
  cases written_alike_of_signature free leftNode rightNode same with
  | object children needs =>
      obtain ⟨names, sameChildren⟩ := (sorted_signatures_iff _ _).mp children
      refine .object names needs fun pair held => ?_
      obtain ⟨first, second⟩ := List.of_mem_zip held
      exact below _ (List.mem_map_of_mem ((sort_by_name_perm _).subset first)) _
        (List.mem_map_of_mem ((sort_by_name_perm _).subset second)) (sameChildren pair held)
  | array sameItems =>
      exact .array (below _ (List.mem_singleton.mpr rfl) _ (List.mem_singleton.mpr rfl) sameItems)
  | primitive kind texts => exact .primitive kind texts
  | reference texts => exact .reference texts
  | unknown texts => exact .unknown texts
termination_by left.size

def NodeOf (left right : Schema) (node : Schema) : Prop := left.Within node ∨ right.Within node

/-- Equivalent schemas have the same signature. As far as the digest does not collide on the nodes
of the two, schemas have the same signature just if they are spelled alike; and where no text in
them is another one with a character in two parts, just if they are equivalent. -/
theorem signature_decides_spelling (left right : Schema)
    (leftDistinct : PropertiesDistinct left) (rightDistinct : PropertiesDistinct right) :
    (Equivalent left right → left.signature = right.signature) ∧
      (SpelledAlike left right → left.signature = right.signature) ∧
      (CollisionFree (NodeOf left right) →
        (left.signature = right.signature → SpelledAlike left right) ∧
        (UnitsTell (NodeOf left right) →
          left.signature = right.signature → Equivalent left right)) := by
  have closed (node : Schema) (held : NodeOf left right node) (child : Schema)
      (member : child ∈ node.children) : NodeOf left right child :=
    held.imp (·.child member) (·.child member)
  refine ⟨?_, SpelledAlike.signature_eq, fun free => ⟨?_, fun tell => ?_⟩⟩
  · intro equivalent
    exact congrArg digestOf (equivalent.encoding_eq leftDistinct rightDistinct)
  · exact spelled_alike_of_signature free closed left right (Or.inl .self) (Or.inr .self)
  · refine equivalent_of_signature free tell closed ?_ left right (Or.inl .self) (Or.inr .self)
    intro node held
    exact held.elim (leftDistinct node) (rightDistinct node)

theorem encoding_of_parted : faceReference.encoding.bytes = partedReference.encoding.bytes := by
  decide

theorem within_reference {pointer : Text} {node : Schema}
    (within : (reference pointer).Within node) : node = .reference pointer :=
  List.mem_singleton.mp (within.mem_of_closed (by simp [children]) (List.mem_singleton.mpr rfl))

theorem properties_distinct_reference (pointer : Text) :
    PropertiesDistinct (.reference pointer) := by
  intro node within
  rw [within_reference within]
  exact List.nodup_nil

/-- The references to a character and to its two surrogates apart have one signature, though they are
not equivalent. -/
theorem parted_reference_shares_signature :
    PropertiesDistinct faceReference ∧ PropertiesDistinct partedReference ∧
      CollisionFree (NodeOf faceReference partedReference) ∧
      faceReference.signature = partedReference.signature ∧
      ¬ Equivalent faceReference partedReference := by
  refine ⟨properties_distinct_reference _, properties_distinct_reference _, ?_, ?_, ?_⟩
  · intro left right leftNode rightNode _
    have bytes (node : Schema) (held : NodeOf faceReference partedReference node) :
        node.encoding.bytes = faceReference.encoding.bytes := by
      rcases held with within | within
      · rw [faceReference, within_reference within]
      · rw [within_reference within]
        exact encoding_of_parted.symm
    rw [bytes left leftNode, bytes right rightNode]
  · exact signature_of_kept ((Canonical.bytes_eq_iff _ _).mp encoding_of_parted)
  · intro equivalent
    cases equivalent

def placeShape : Schema :=
  .object [("lat", .primitive .number none), ("long", .primitive .number none)] ["lat", "long"]

def turnedPlaceShape : Schema :=
  .object [("long", .primitive .number none), ("lat", .primitive .number none)] ["long", "lat"]

def placeNodes : List Schema := [.primitive .number none, placeShape, turnedPlaceShape]

theorem place_nodes_closed : ∀ node ∈ placeNodes, ∀ child ∈ node.children, child ∈ placeNodes := by
  simp [placeNodes, children, placeShape, turnedPlaceShape]

theorem place_properties_distinct (root : Schema) (listed : root ∈ placeNodes) :
    PropertiesDistinct root := by
  intro node within
  have distinct : ∀ node ∈ placeNodes, (Table.keys node.properties).Nodup := by decide
  exact distinct node (within.mem_of_closed place_nodes_closed listed)

theorem turned_place_equivalent : Equivalent placeShape turnedPlaceShape := by
  refine .object (by simp [Table.keys, or_comm]) (by simp [or_comm]) ?_
  intro name child other held otherHeld
  have same : child = .primitive .number none ∧ other = .primitive .number none := by
    simp only [List.mem_cons, Prod.mk.injEq, List.not_mem_nil, or_false] at held otherHeld
    grind
  rw [same.1, same.2]
  exact .primitive .number none

theorem places_listed (node : Schema) (held : NodeOf placeShape turnedPlaceShape node) :
    node ∈ placeNodes :=
  held.elim (·.mem_of_closed place_nodes_closed (by simp [placeNodes]))
    (·.mem_of_closed place_nodes_closed (by simp [placeNodes]))

theorem places_told : UnitsTell (NodeOf placeShape turnedPlaceShape) := by
  refine units_tell_of_pair_free fun node held => ?_
  have free : ∀ node ∈ placeNodes, ∀ text ∈ node.texts, text.PairFree := by decide
  exact free node (places_listed node held)

theorem places_collision_free : CollisionFree (NodeOf placeShape turnedPlaceShape) := by
  have turned := turned_place_equivalent.encoding_eq
    (place_properties_distinct _ (by simp [placeNodes]))
    (place_properties_distinct _ (by simp [placeNodes]))
  apply collision_free_of_representatives [.primitive .number none, placeShape]
  · intro node held
    have listed := places_listed node held
    simp only [placeNodes, List.mem_cons, List.not_mem_nil, or_false] at listed
    rcases listed with rfl | rfl | rfl
    · exact ⟨_, by simp, rfl⟩
    · exact ⟨_, by simp, rfl⟩
    · exact ⟨placeShape, by simp, congrArg Canonical.bytes turned⟩
  · decide +kernel

theorem turned_place_shares_signature :
    PropertiesDistinct placeShape ∧ PropertiesDistinct turnedPlaceShape ∧
      CollisionFree (NodeOf placeShape turnedPlaceShape) ∧
      UnitsTell (NodeOf placeShape turnedPlaceShape) ∧
      placeShape.signature = turnedPlaceShape.signature ∧
      SpelledAlike placeShape turnedPlaceShape ∧ Equivalent placeShape turnedPlaceShape := by
  have distinct := place_properties_distinct placeShape (by simp [placeNodes])
  have turnedDistinct := place_properties_distinct turnedPlaceShape (by simp [placeNodes])
  obtain ⟨shared, spelled, decided⟩ :=
    signature_decides_spelling placeShape turnedPlaceShape distinct turnedDistinct
  have same := shared turned_place_equivalent
  obtain ⟨alike, equivalent⟩ := decided places_collision_free
  exact ⟨distinct, turnedDistinct, places_collision_free, places_told, same, alike same,
    equivalent places_told same⟩

end Schema

end DtoForge
