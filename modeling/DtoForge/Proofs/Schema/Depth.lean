import DtoForge.Proofs.Schema.Equivalence

/-!
How deep objects are nested. Only objects with properties count, and arrays do not, so an object in
a property is always less deep than the object around it. Without collisions of the digest the depth
of a node is fixed by its signature.
-/

namespace DtoForge

namespace Schema

mutual

/-- The depth of the object under the arrays of a schema, 0 unless that is one with properties. -/
def nesting : Schema → Nat
  | .object properties _ => if properties.isEmpty then 0 else 1 + deepest properties
  | .array items => items.nesting
  | .primitive _ _ | .reference _ | .unknown _ => 0

def deepest : List (Text × Schema) → Nat
  | [] => 0
  | (_, schema) :: rest => max schema.nesting (deepest rest)

end

/-- The number of objects from a definition down to its deepest object with properties, the
definition included. Anything but an object counts as one that holds no others. -/
def depth : Schema → Nat
  | .object properties _ => 1 + deepest properties
  | .array _ | .primitive _ _ | .reference _ | .unknown _ => 1

theorem depth_pos (schema : Schema) : 0 < schema.depth := by
  cases schema <;> simp only [depth] <;> omega

theorem nesting_le_deepest {properties : List (Text × Schema)} {property : Text × Schema}
    (member : property ∈ properties) : property.2.nesting ≤ deepest properties := by
  induction properties with
  | nil => cases member
  | cons head rest induction =>
      rw [deepest]
      rcases List.mem_cons.mp member with rfl | later
      · exact Nat.le_max_left _ _
      · exact Nat.le_trans (induction later) (Nat.le_max_right _ _)

theorem deepest_le {properties : List (Text × Schema)} {bound : Nat}
    (each : ∀ property ∈ properties, property.2.nesting ≤ bound) : deepest properties ≤ bound := by
  induction properties with
  | nil => exact Nat.zero_le _
  | cons head rest induction =>
      obtain ⟨first, others⟩ := List.forall_mem_cons.mp each
      rw [deepest]
      exact Nat.max_le.mpr ⟨first, induction others⟩

theorem depth_eq (schema : Schema) :
    schema.depth = if schema.hasProperties then schema.nesting else 1 := by
  cases schema with
  | object properties required =>
      cases properties with
      | nil => rfl
      | cons property rest => simp [hasProperties, nesting, depth]
  | array | primitive | reference | unknown => rfl

theorem nesting_core (schema : Schema) : schema.core.nesting = schema.nesting := by
  fun_induction Schema.core schema with
  | case1 items induction => rw [induction, nesting]
  | case2 => rfl

theorem core_depth_lt {schema : Schema} {property : Text × Schema}
    (member : property ∈ schema.properties) (shaped : property.2.core.hasProperties = true) :
    property.2.core.depth < schema.depth := by
  cases schema with
  | object properties required =>
      have bound : property.2.nesting ≤ deepest properties := nesting_le_deepest member
      rw [depth_eq, if_pos shaped, nesting_core, depth]
      omega
  | array | primitive | reference | unknown => cases member

theorem Within.nesting_le {root node : Schema} (within : root.Within node) :
    node.nesting ≤ root.nesting := by
  induction within with
  | self => exact Nat.le_refl _
  | @property properties required name schema _ member induction =>
      have bound : schema.nesting ≤ deepest properties := nesting_le_deepest member
      have some : properties.isEmpty = false := by
        cases properties with
        | nil => cases member
        | cons => rfl
      rw [nesting, some, if_neg Bool.false_ne_true] at induction
      omega
  | items _ induction =>
      rw [nesting] at induction
      exact induction

variable {definitions : Definitions}

theorem nesting_le_of_signature (free : CollisionFree definitions.Node) (left right : Schema)
    (leftNode : definitions.Node left) (rightNode : definitions.Node right)
    (same : left.signature = right.signature) : left.nesting ≤ right.nesting := by
  have below (child : Schema) (held : child ∈ left.children) (childNode : definitions.Node child)
      (other : Schema) (otherNode : definitions.Node other)
      (sameChild : child.signature = other.signature) : child.nesting ≤ other.nesting :=
    have smaller := size_child_lt held
    nesting_le_of_signature free child other childNode otherNode sameChild
  cases written_alike_of_signature free leftNode rightNode same with
  | @object properties others required needed children names =>
      have bound : deepest properties ≤ deepest others := by
        apply deepest_le
        intro property member
        obtain ⟨_, other, held, -, sameChild⟩ := property_of_written children member
        exact Nat.le_trans
          (below property.2 (List.mem_map_of_mem member) (leftNode.of_properties member) other
            (rightNode.of_properties held) sameChild.symm)
          (nesting_le_deepest held)
      have lengths := length_eq_of_written children
      have bare : properties.isEmpty = others.isEmpty := by
        rw [Bool.eq_iff_iff, List.isEmpty_iff, List.isEmpty_iff, ← List.length_eq_zero_iff,
          ← List.length_eq_zero_iff, lengths]
      rw [nesting, nesting, bare]
      split <;> omega
  | array sameItems =>
      rw [nesting, nesting]
      exact below _ (List.mem_singleton.mpr rfl) leftNode.items _ rightNode.items sameItems
  | primitive | reference | unknown => exact Nat.le_refl _
termination_by left.size

theorem depth_of_signature (free : CollisionFree definitions.Node) {left right : Schema}
    (leftNode : definitions.Node left) (rightNode : definitions.Node right)
    (same : left.signature = right.signature) : left.depth = right.depth := by
  have shaped := (written_alike_of_signature free leftNode rightNode same).hasProperties_eq
  have nested : left.nesting = right.nesting := Nat.le_antisymm
    (nesting_le_of_signature free left right leftNode rightNode same)
    (nesting_le_of_signature free right left rightNode leftNode same.symm)
  rw [depth_eq, depth_eq, shaped, nested]

end Schema

def Definitions.depth (definitions : Definitions) : Nat :=
  (definitions.map (·.2.depth)).foldr max 0

theorem depth_le_definitions {definitions : Definitions} {pair : Text × Schema}
    (declared : pair ∈ definitions) : pair.2.depth ≤ definitions.depth := by
  unfold Definitions.depth
  induction definitions with
  | nil => cases declared
  | cons head rest induction =>
      rw [List.map_cons, List.foldr_cons]
      rcases List.mem_cons.mp declared with rfl | later
      · exact Nat.le_max_left _ _
      · exact Nat.le_trans (induction later) (Nat.le_max_right _ _)

example : Definitions.depth tripSchemas = 2 := by decide +kernel

end DtoForge
