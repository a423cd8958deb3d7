import DtoForge.Proofs.Schema.Readback
import DtoForge.Schema.Signature
import Mathlib.Data.List.Nodup

/-!
What a signature tells about a schema. Among nodes whose encodings do not collide under the digest,
two of one signature have the same outermost shape, and their children have the same signatures
again. The absence of collisions is a hypothesis on the nodes at hand, never on all byte strings.
-/

namespace DtoForge

/-- The nodes of a schema, the schema itself included. -/
inductive Schema.Within (root : Schema) : Schema → Prop
  | self : Within root root
  | property {properties : List (Text × Schema)} {required : List Text} {name : Text}
      {schema : Schema} : Within root (.object properties required) →
      (name, schema) ∈ properties → Within root schema
  | items {items : Schema} : Within root (.array items) → Within root items

def Schema.properties : Schema → List (Text × Schema)
  | .object properties _ => properties
  | _ => []

def Schema.required : Schema → List Text
  | .object _ required => required
  | _ => []

/-- The schema under all arrays. -/
def Schema.core : Schema → Schema
  | .array items => items.core
  | schema => schema

theorem Schema.Within.core {root schema : Schema} (within : root.Within schema) :
    root.Within schema.core := by
  fun_induction Schema.core schema with
  | case1 items induction => exact induction within.items
  | case2 => exact within

theorem Schema.Within.of_properties {root schema : Schema} {property : Text × Schema}
    (within : root.Within schema) (member : property ∈ schema.properties) :
    root.Within property.2 := by
  cases schema with
  | object properties required => exact within.property member
  | array | primitive | reference | unknown => cases member

def Definitions.Node (definitions : Definitions) (node : Schema) : Prop :=
  ∃ pair ∈ definitions, pair.2.Within node

theorem Definitions.Node.items {definitions : Definitions} {items : Schema}
    (node : definitions.Node (.array items)) : definitions.Node items := by
  obtain ⟨root, declared, within⟩ := node
  exact ⟨root, declared, within.items⟩

theorem Definitions.Node.core {definitions : Definitions} {schema : Schema}
    (node : definitions.Node schema) : definitions.Node schema.core := by
  obtain ⟨root, declared, within⟩ := node
  exact ⟨root, declared, within.core⟩

theorem Definitions.Node.of_properties {definitions : Definitions} {schema : Schema}
    {property : Text × Schema} (node : definitions.Node schema)
    (member : property ∈ schema.properties) : definitions.Node property.2 := by
  obtain ⟨root, declared, within⟩ := node
  exact ⟨root, declared, within.of_properties member⟩

namespace Schema

/-- The digest does not collide on the encodings of some nodes. -/
def CollisionFree (nodes : Schema → Prop) : Prop :=
  ∀ left right, nodes left → nodes right →
    Digest.sha256Hex left.encoding.bytes = Digest.sha256Hex right.encoding.bytes →
    left.encoding.bytes = right.encoding.bytes

theorem kept_of_signature {nodes : Schema → Prop} (free : CollisionFree nodes)
    {left right : Schema} (leftNode : nodes left) (rightNode : nodes right)
    (same : left.signature = right.signature) : left.encoding.kept = right.encoding.kept :=
  (Canonical.bytes_eq_iff _ _).mp
    (free left right leftNode rightNode (Text.of_string_inj.mp same))

theorem signature_of_kept {left right : Schema} (same : left.encoding.kept = right.encoding.kept) :
    left.signature = right.signature :=
  congrArg (fun bytes => Text.ofString (Digest.sha256Hex bytes))
    ((Canonical.bytes_eq_iff _ _).mpr same)

theorem signatures_eq_map (properties : List (Text × Schema)) :
    signatures properties = properties.map fun property => (property.1, property.2.signature) := by
  induction properties with
  | nil => rfl
  | cons property rest induction => simp [signatures, induction, signature]

/-! ### What encodings keep -/

def unitEntry (entry : Text × Text) : List Nat × List Nat := (entry.1.units, entry.2.units)

/-- Two nodes of the same outermost shape whose texts have the same units, in their ascending order,
and whose children have the same signatures. -/
inductive WrittenAlike : Schema → Schema → Prop
  | object {properties others : List (Text × Schema)} {required needed : List Text}
      (children : (sortByName (signatures properties)).map unitEntry =
        (sortByName (signatures others)).map unitEntry)
      (names : (nameSet required).map Text.units = (nameSet needed).map Text.units) :
      WrittenAlike (.object properties required) (.object others needed)
  | array {items others : Schema} (same : items.signature = others.signature) :
      WrittenAlike (.array items) (.array others)
  | primitive (kind : PrimitiveKind) {format other : Option Text}
      (same : format.map Text.units = other.map Text.units) :
      WrittenAlike (.primitive kind format) (.primitive kind other)
  | reference {pointer other : Text} (same : pointer.units = other.units) :
      WrittenAlike (.reference pointer) (.reference other)
  | unknown {tag other : Option Text} (same : tag.map Text.units = other.map Text.units) :
      WrittenAlike (.unknown tag) (.unknown other)

theorem kept_of_text (left right : Option Text) :
    (Canonical.ofText? left).kept = (Canonical.ofText? right).kept ↔
      left.map Text.units = right.map Text.units := by
  cases left <;> cases right <;> simp [Canonical.ofText?, Canonical.kept]

theorem kind_units_injective : Function.Injective fun kind : PrimitiveKind => kind.name.units := by
  have each : ∀ left ∈ PrimitiveKind.all, ∀ right ∈ PrimitiveKind.all,
      left.name.units = right.name.units → left = right := by decide
  have listed (kind : PrimitiveKind) : kind ∈ PrimitiveKind.all := by cases kind <;> decide
  exact fun left right => each left (listed left) right (listed right)

def keptEntry (entry : List Nat × List Nat) : Canonical.Kept :=
  .list [.text entry.1, .text entry.2]

theorem kept_entry_injective : Function.Injective keptEntry := by
  intro left right same
  simp only [keptEntry, Canonical.Kept.list.injEq, List.cons.injEq, Canonical.Kept.text.injEq,
    and_true] at same
  exact Prod.ext same.1 same.2

theorem kept_entries (entries : List (Text × Text)) :
    Canonical.keptItems (entries.map fun (name, signature) =>
      .list [.text name, .text signature]) = (entries.map unitEntry).map keptEntry := by
  rw [Canonical.kept_items_eq_map, List.map_map, List.map_map]
  rfl

theorem kept_names (names : List Text) :
    Canonical.keptItems (names.map .text) = (names.map Text.units).map .text := by
  rw [Canonical.kept_items_eq_map, List.map_map, List.map_map]
  rfl

theorem signature_units_inj {left right : Schema} :
    left.signature.units = right.signature.units ↔ left.signature = right.signature :=
  ⟨Text.units_inj (Text.pair_free_of_string _) (Text.pair_free_of_string _), congrArg Text.units⟩

theorem written_alike_iff (left right : Schema) :
    WrittenAlike left right ↔ left.encoding.kept = right.encoding.kept := by
  have names : Function.Injective Canonical.Kept.text := fun _ _ => Canonical.Kept.text.inj
  constructor
  · intro alike
    cases alike with
    | object children names =>
        simp only [encoding, Canonical.kept, Canonical.keptItems, kept_entries, kept_names,
          children,
          names]
    | array same =>
        have digests := signature_units_inj.mpr same
        simp only [signature] at digests
        simp only [encoding, Canonical.kept, Canonical.keptItems, digests]
    | primitive kind same =>
        simp only [encoding, Canonical.kept, Canonical.keptItems, (kept_of_text _ _).mpr same]
    | reference same => simp only [encoding, Canonical.kept, Canonical.keptItems, same]
    | unknown same =>
        simp only [encoding, Canonical.kept, Canonical.keptItems, (kept_of_text _ _).mpr same]
  · intro same
    cases left <;> cases right <;>
      simp only [encoding, Canonical.kept, Canonical.keptItems, kept_entries, kept_names,
        Canonical.Kept.list.injEq, List.cons.injEq, Canonical.Kept.text.injEq, and_true] at same
    -- Nodes of two shapes differ in the first text.
    all_goals try exact absurd same.1 (by decide)
    case object.object =>
      exact .object (List.map_injective_iff.mpr kept_entry_injective same.2.1)
        (List.map_injective_iff.mpr names same.2.2)
    case array.array => exact .array (signature_units_inj.mp same.2)
    case primitive.primitive kind format other otherFormat =>
      obtain rfl : kind = other := kind_units_injective same.2.1
      exact .primitive kind ((kept_of_text _ _).mp same.2.2)
    case reference.reference => exact .reference same.2
    case unknown.unknown => exact .unknown ((kept_of_text _ _).mp same.2)

theorem written_alike_of_signature {nodes : Schema → Prop} (free : CollisionFree nodes)
    {left right : Schema} (leftNode : nodes left) (rightNode : nodes right)
    (same : left.signature = right.signature) : WrittenAlike left right :=
  (written_alike_iff left right).mpr (kept_of_signature free leftNode rightNode same)

theorem length_eq_of_written {properties others : List (Text × Schema)}
    (children : (sortByName (signatures properties)).map unitEntry =
      (sortByName (signatures others)).map unitEntry) : properties.length = others.length := by
  have lengths := congrArg List.length children
  rw [List.length_map, List.length_map, (sort_by_name_perm _).length_eq,
    (sort_by_name_perm _).length_eq, signatures_eq_map, signatures_eq_map, List.length_map,
    List.length_map] at lengths
  exact lengths

theorem WrittenAlike.hasProperties_eq {left right : Schema} (alike : WrittenAlike left right) :
    left.hasProperties = right.hasProperties := by
  cases alike with
  | @object properties others required needed children names =>
      have lengths := length_eq_of_written children
      cases properties <;> cases others <;> simp_all [hasProperties]
  | array | primitive | reference | unknown => rfl

theorem property_of_written {properties others : List (Text × Schema)}
    (children : (sortByName (signatures properties)).map unitEntry =
      (sortByName (signatures others)).map unitEntry) {name : Text} {schema : Schema}
    (member : (name, schema) ∈ properties) :
    ∃ key other, (key, other) ∈ others ∧ key.units = name.units ∧
      other.signature = schema.signature := by
  have listed : (name, schema.signature) ∈ signatures properties := by
    rw [signatures_eq_map]
    exact List.mem_map_of_mem member
  have found := List.mem_map_of_mem (f := unitEntry) ((sort_by_name_perm _).symm.subset listed)
  rw [children] at found
  obtain ⟨entry, sorted, same⟩ := List.mem_map.mp found
  have held := (sort_by_name_perm _).subset sorted
  rw [signatures_eq_map] at held
  obtain ⟨⟨key, other⟩, inside, rfl⟩ := List.mem_map.mp held
  obtain ⟨names, digests⟩ := Prod.mk.inj same
  exact ⟨key, other, inside, names, signature_units_inj.mp digests⟩

theorem core_signature_eq {definitions : Definitions} (free : CollisionFree definitions.Node)
    {left right : Schema} (leftNode : definitions.Node left) (rightNode : definitions.Node right)
    (same : left.signature = right.signature) : left.core.signature = right.core.signature := by
  fun_induction Schema.core left generalizing right with
  | case1 items induction =>
      have alike := written_alike_of_signature free leftNode rightNode same
      cases alike with
      | array children =>
          have cores := induction leftNode.items rightNode.items children
          exact cores
  | case2 left other =>
      have alike := written_alike_of_signature free leftNode rightNode same
      cases alike with
      | object | primitive | reference | unknown => exact same
      | @array items others children => exact absurd rfl (other items)

/-! ### Texts told apart by their units -/

def texts : Schema → List Text
  | .object properties required => properties.map (·.1) ++ required
  | .array _ => []
  | .primitive _ format => format.toList
  | .reference pointer => [pointer]
  | .unknown tag => tag.toList

/-- Different texts of some nodes have different units. Only a character and its two surrogates
apart have the same. -/
def UnitsTell (nodes : Schema → Prop) : Prop :=
  ∀ left right, nodes left → nodes right → ∀ text ∈ left.texts, ∀ other ∈ right.texts,
    text.units = other.units → text = other

theorem units_tell_of_pair_free {nodes : Schema → Prop}
    (free : ∀ node, nodes node → ∀ text ∈ node.texts, text.PairFree) : UnitsTell nodes :=
  fun left right leftNode rightNode text held other otherHeld =>
    Text.units_inj (free left leftNode text held) (free right rightNode other otherHeld)

/-- Two nodes of the same outermost shape and with the same texts, whose children have the same
signatures. -/
inductive Alike : Schema → Schema → Prop
  | object {properties others : List (Text × Schema)} {required needed : List Text}
      (children : (signatures properties).Perm (signatures others))
      (names : ∀ name, name ∈ required ↔ name ∈ needed) :
      Alike (.object properties required) (.object others needed)
  | array {items others : Schema} (same : items.signature = others.signature) :
      Alike (.array items) (.array others)
  | primitive (kind : PrimitiveKind) (format : Option Text) :
      Alike (.primitive kind format) (.primitive kind format)
  | reference (pointer : Text) : Alike (.reference pointer) (.reference pointer)
  | unknown (tag : Option Text) : Alike (.unknown tag) (.unknown tag)

theorem eq_of_map_eq {α β : Type} {f : α → β} {left right : List α}
    (injective : ∀ a ∈ left, ∀ b ∈ right, f a = f b → a = b) (same : left.map f = right.map f) :
    left = right := by
  induction left generalizing right with
  | nil => exact (List.map_eq_nil_iff.mp same.symm).symm
  | cons a left induction =>
      cases right with
      | nil => cases same
      | cons b right =>
          obtain ⟨heads, tails⟩ := List.cons.inj same
          rw [injective a List.mem_cons_self b List.mem_cons_self heads,
            induction (fun c held d other => injective c (List.mem_cons_of_mem _ held) d
              (List.mem_cons_of_mem _ other)) tails]

theorem option_eq_of_map_eq {α β : Type} {f : α → β} {left right : Option α}
    (injective : ∀ a ∈ left.toList, ∀ b ∈ right.toList, f a = f b → a = b)
    (same : left.map f = right.map f) : left = right := by
  cases left with
  | none => exact (Option.map_eq_none_iff.mp same.symm).symm
  | some a =>
      cases right with
      | none => cases same
      | some b => rw [injective a (by simp) b (by simp) (Option.some.inj same)]

theorem mem_signatures {properties : List (Text × Schema)} {entry : Text × Text}
    (member : entry ∈ signatures properties) :
    ∃ name schema, (name, schema) ∈ properties ∧ entry = (name, schema.signature) := by
  rw [signatures_eq_map] at member
  obtain ⟨⟨name, schema⟩, held, rfl⟩ := List.mem_map.mp member
  exact ⟨name, schema, held, rfl⟩

theorem WrittenAlike.alike {left right : Schema} (alike : WrittenAlike left right)
    (tell : ∀ text ∈ left.texts, ∀ other ∈ right.texts, text.units = other.units → text = other) :
    Alike left right := by
  cases alike with
  | @object properties others required needed children names =>
      refine .object ?_ ?_
      · have sorted : sortByName (signatures properties) = sortByName (signatures others) := by
          refine eq_of_map_eq ?_ children
          intro entry held other otherHeld same
          obtain ⟨name, schema, inside, rfl⟩ := mem_signatures ((sort_by_name_perm _).subset held)
          obtain ⟨key, child, otherInside, rfl⟩ :=
            mem_signatures ((sort_by_name_perm _).subset otherHeld)
          obtain ⟨keys, digests⟩ := Prod.mk.inj same
          have named : name = key :=
            tell name (List.mem_append_left _ (List.mem_map_of_mem inside)) key
              (List.mem_append_left _ (List.mem_map_of_mem otherInside)) keys
          rw [named, signature_units_inj.mp digests]
        exact ((sort_by_name_perm _).symm.trans (sorted ▸ List.Perm.refl _)).trans
          (sort_by_name_perm _)
      · have sets : nameSet required = nameSet needed := by
          refine eq_of_map_eq ?_ names
          intro name held other otherHeld
          exact tell name (List.mem_append_right _ ((mem_name_set _ _).mp held)) other
            (List.mem_append_right _ ((mem_name_set _ _).mp otherHeld))
        intro name
        rw [← mem_name_set, sets, mem_name_set]
  | array same => exact .array same
  | primitive kind same =>
      rw [option_eq_of_map_eq tell same]
      exact .primitive kind _
  | reference same =>
      rw [tell _ (List.mem_singleton.mpr rfl) _ (List.mem_singleton.mpr rfl) same]
      exact .reference _
  | unknown same =>
      rw [option_eq_of_map_eq tell same]
      exact .unknown _

theorem alike_of_signature {nodes : Schema → Prop} (free : CollisionFree nodes)
    (tell : UnitsTell nodes) {left right : Schema} (leftNode : nodes left)
    (rightNode : nodes right) (same : left.signature = right.signature) : Alike left right :=
  (written_alike_of_signature free leftNode rightNode same).alike
    (tell left right leftNode rightNode)

theorem has_properties_iff (properties : List (Text × Schema)) (required : List Text) :
    (Schema.object properties required).hasProperties = true ↔ properties ≠ [] := by
  cases properties <;> simp [hasProperties]

theorem property_of_perm {properties others : List (Text × Schema)}
    (children : (signatures properties).Perm (signatures others)) {name : Text} {schema : Schema}
    (member : (name, schema) ∈ properties) :
    ∃ other, (name, other) ∈ others ∧ other.signature = schema.signature := by
  have listed : (name, schema.signature) ∈ signatures properties := by
    rw [signatures_eq_map]
    exact List.mem_map_of_mem member
  obtain ⟨key, other, inside, same⟩ := mem_signatures (children.subset listed)
  obtain ⟨rfl, digests⟩ := Prod.mk.inj same
  exact ⟨other, inside, digests.symm⟩

/-! ### Finitely many nodes -/

def children : Schema → List Schema
  | .object properties _ => properties.map (·.2)
  | .array items => [items]
  | .primitive _ _ | .reference _ | .unknown _ => []

theorem Within.mem_of_closed {nodes : List Schema}
    (closed : ∀ node ∈ nodes, ∀ child ∈ node.children, child ∈ nodes) {root node : Schema}
    (within : root.Within node) (listed : root ∈ nodes) : node ∈ nodes := by
  induction within with
  | self => exact listed
  | property _ member induction => exact closed _ induction _ (List.mem_map_of_mem member)
  | items _ induction => exact closed _ induction _ (List.mem_singleton.mpr rfl)

/-- Nodes written like one of some schemas of distinct signatures do not collide. -/
theorem collision_free_of_representatives {nodes : Schema → Prop} (kept : List Schema)
    (complete : ∀ node, nodes node → ∃ other ∈ kept, other.encoding.bytes = node.encoding.bytes)
    (distinct : (kept.map signature).Nodup) : CollisionFree nodes := by
  intro left right leftNode rightNode same
  obtain ⟨first, firstKept, leftSame⟩ := complete left leftNode
  obtain ⟨second, secondKept, rightSame⟩ := complete right rightNode
  rw [← leftSame, ← rightSame] at same ⊢
  rw [List.inj_on_of_nodup_map distinct firstKept secondKept (congrArg Text.ofString same)]

theorem collision_free_of_distinct {definitions : Definitions} (nodes : List Schema)
    (roots : ∀ pair ∈ definitions, pair.2 ∈ nodes)
    (closed : ∀ node ∈ nodes, ∀ child ∈ node.children, child ∈ nodes)
    (distinct : (nodes.map signature).Nodup) : CollisionFree definitions.Node := by
  refine collision_free_of_representatives nodes ?_ distinct
  intro node ⟨root, declared, within⟩
  exact ⟨node, within.mem_of_closed closed (roots root declared), rfl⟩

end Schema

def faceReference : Schema := .reference ("#/definitions/" ++ "😀")

/-- The same reference with the two surrogates of the character apart. -/
def partedReference : Schema := .reference ("#/definitions/" ++ partedFace)

def townShape : Schema := .object [("name", .primitive .string none)] ["name"]

def tripShape : Schema :=
  .object [("stops", .array townShape), ("back", .reference "#/definitions/trip")] []

def tripSchemas : Definitions :=
  [("city", townShape), ("town", townShape), ("trip", tripShape),
    ("note", .primitive .string none)]

def tripNodes : List Schema :=
  [.primitive .string none, townShape, .array townShape, .reference "#/definitions/trip",
    tripShape]

theorem trip_nodes_closed : ∀ node ∈ tripNodes, ∀ child ∈ node.children, child ∈ tripNodes := by
  simp [tripNodes, Schema.children, townShape, tripShape]

theorem trip_schemas_listed : ∀ pair ∈ tripSchemas, pair.2 ∈ tripNodes := by
  simp [tripSchemas, tripNodes]

theorem trip_schemas_collision_free : Schema.CollisionFree tripSchemas.Node :=
  Schema.collision_free_of_distinct tripNodes trip_schemas_listed trip_nodes_closed
    (by decide +kernel)

theorem trip_schemas_told : Schema.UnitsTell tripSchemas.Node := by
  refine Schema.units_tell_of_pair_free fun node held => ?_
  obtain ⟨root, declared, within⟩ := held
  have listed := within.mem_of_closed trip_nodes_closed (trip_schemas_listed root declared)
  have free : ∀ node ∈ tripNodes, ∀ text ∈ node.texts, text.PairFree := by decide
  exact free node listed

theorem trip_schemas_distinct_properties (node : Schema) (held : tripSchemas.Node node) :
    (Table.keys node.properties).Nodup := by
  obtain ⟨root, declared, within⟩ := held
  have listed := within.mem_of_closed trip_nodes_closed (trip_schemas_listed root declared)
  have distinct : ∀ node ∈ tripNodes, (Table.keys node.properties).Nodup := by decide
  exact distinct node listed

end DtoForge
