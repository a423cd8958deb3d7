import DtoForge.Resolution.Record

/-!
A measure of the work that is left: the number of schema nodes of all entries that are not
processed. Building a record registers only schemas strictly inside the one at hand, so completing
a key always lowers the measure. Nothing is assumed of the registry.
-/

namespace DtoForge.Resolution

/-- The number of schema nodes under all keys other than some. -/
def weightOutside (done : List Text) : Table Entry → Nat
  | [] => 0
  | (key, entry) :: rest =>
    (if done.contains key then 0 else entry.schema.size) + weightOutside done rest

def pendingWeight (registry : Registry) : Nat := weightOutside registry.processed registry.entries

theorem weight_put_le (done : List Text) (table : Table Entry) (key : Text) (entry : Entry) :
    weightOutside done (table.put key entry) ≤ weightOutside done table + entry.schema.size := by
  induction table with
  | nil =>
      simp only [Table.put, weightOutside]
      split <;> omega
  | cons head rest induction =>
      obtain ⟨other, old⟩ := head
      by_cases same : other = key
      · simp only [Table.put, same, if_true, weightOutside]
        split <;> omega
      · simp only [Table.put, same, if_false, weightOutside]
        omega

/-- A key that is no longer counted takes at least its own entry off the weight. -/
theorem weight_cons_add_le (done : List Text) (table : Table Entry) (key : Text)
    (entry : Entry) (found : table.get? key = some entry) (counted : done.contains key = false) :
    weightOutside (key :: done) table + entry.schema.size ≤ weightOutside done table := by
  induction table with
  | nil => simp [Table.get?] at found
  | cons head rest induction =>
      obtain ⟨other, old⟩ := head
      have fewer : weightOutside (key :: done) rest ≤ weightOutside done rest := by
        clear induction found
        induction rest with
        | nil => exact Nat.le_refl _
        | cons next rest induction =>
            obtain ⟨name, schema⟩ := next
            simp only [weightOutside, List.contains_cons]
            cases name == key <;> cases done.contains name <;> simp <;> omega
      by_cases same : other = key
      · subst same
        simp only [Table.get?, if_true, Option.some.injEq] at found
        subst found
        simp only [weightOutside, List.contains_cons, beq_self_eq_true, Bool.true_or, if_true,
          counted, Bool.false_eq_true, if_false]
        omega
      · simp only [Table.get?, same, if_false] at found
        have rest_le := induction found
        have unequal : (other == key) = false := by simpa using same
        simp only [weightOutside, List.contains_cons, unequal, Bool.false_or]
        omega

theorem weight_promoted_le (done : List Text) (registry : Registry) (hint : Option Text)
    (schema : Schema) (signature : Text) :
    weightOutside done (registry.registerPromoted hint schema signature).2.entries ≤
      weightOutside done registry.entries + schema.size := by
  have same : (registry.candidateName hint).2.entries = registry.entries := by
    unfold Registry.candidateName
    cases hint with
    | none => rfl
    | some hint => dsimp only; split <;> rfl
  simp only [Registry.registerPromoted, Registry.add, Registry.share]
  rw [← same]
  exact weight_put_le done _ _ _

theorem weight_inline_le (done : List Text) (registry : Registry) (hint : Option Text)
    (schema : Schema) (signature : Text) (enclosing : Option Entry) :
    weightOutside done (registry.registerInline hint schema signature enclosing).2.entries ≤
      weightOutside done registry.entries + schema.size := by
  have same : (registry.candidateName hint).2.entries = registry.entries := by
    unfold Registry.candidateName
    cases hint with
    | none => rfl
    | some hint => dsimp only; split <;> rfl
  simp only [Registry.registerInline, Registry.add]
  rw [← same]
  exact weight_put_le done _ _ _

theorem processed_candidate (registry : Registry) (hint : Option Text) :
    (registry.candidateName hint).2.processed = registry.processed := by
  unfold Registry.candidateName
  cases hint with
  | none => rfl
  | some hint => dsimp only; split <;> rfl

theorem weight_object_le (done : List Text) (threshold : Nat) (policy : Policy)
    (hint : Option Text) (enclosing : Option Entry) (registry : Registry) (schema : Schema)
    (count : Nat) :
    weightOutside done
        (resolveObject threshold policy hint enclosing registry schema count).2.1.entries ≤
      weightOutside done registry.entries + schema.size := by
  unfold resolveObject
  split
  · exact Nat.le_add_right _ _
  · cases policy with
    | inline =>
        dsimp only
        split
        · exact Nat.le_add_right _ _
        · exact weight_inline_le done registry hint schema schema.signature enclosing
    | promote =>
        dsimp only
        split
        · exact Nat.le_add_right _ _
        · exact weight_promoted_le done registry hint schema schema.signature

theorem processed_object (threshold : Nat) (policy : Policy) (hint : Option Text)
    (enclosing : Option Entry) (registry : Registry) (schema : Schema) (count : Nat) :
    (resolveObject threshold policy hint enclosing registry schema count).2.1.processed =
      registry.processed := by
  unfold resolveObject
  split
  · rfl
  · cases policy with
    | inline =>
        dsimp only
        split
        · rfl
        · exact processed_candidate registry hint
    | promote =>
        dsimp only
        split
        · rfl
        · exact processed_candidate registry hint

theorem weight_resolve_le (done : List Text) (threshold : Nat) (policy : Policy)
    (hint : Option Text) (enclosing : Option Entry) (registry : Registry) (schema : Schema) :
    weightOutside done (resolve threshold policy hint enclosing registry schema).2.1.entries ≤
      weightOutside done registry.entries + schema.size := by
  fun_induction resolve threshold policy hint enclosing registry schema with
  | case1 pointer =>
      unfold resolveReference
      dsimp only
      split <;> exact Nat.le_add_right _ _
  | case2 properties required => exact weight_object_le _ _ _ _ _ _ _ _
  | case3 items item after notices step induction =>
      rw [step] at induction
      dsimp only at induction
      simp only [Schema.size]
      omega
  | case4 => exact Nat.le_add_right _ _
  | case5 => exact Nat.le_add_right _ _

theorem processed_resolve (threshold : Nat) (policy : Policy) (hint : Option Text)
    (enclosing : Option Entry) (registry : Registry) (schema : Schema) :
    (resolve threshold policy hint enclosing registry schema).2.1.processed =
      registry.processed := by
  fun_induction resolve threshold policy hint enclosing registry schema with
  | case1 pointer =>
      unfold resolveReference
      dsimp only
      split <;> rfl
  | case2 properties required => exact processed_object _ _ _ _ _ _ _
  | case3 items item after notices step induction => rw [step] at induction; exact induction
  | case4 => rfl
  | case5 => rfl

theorem weight_fields_le (done : List Text) (context : Context) (entry : Entry)
    (required : List Text) (properties : List (Text × Schema)) (used : List Text)
    (registry : Registry) :
    weightOutside done (fieldsOf context entry required properties used registry).2.1.entries ≤
      weightOutside done registry.entries + Schema.sizeSum properties := by
  induction properties generalizing used registry with
  | nil => exact Nat.le_add_right _ _
  | cons property rest induction =>
      obtain ⟨name, schema⟩ := property
      have head := weight_resolve_le done context.inlineThreshold context.policy (some name)
        (some entry) registry schema
      have tail := induction (Naming.uniquify (Naming.fieldName name) used :: used)
        (resolve context.inlineThreshold context.policy (some name) (some entry) registry
          schema).2.1
      simp only [fieldsOf, Schema.sizeSum]
      refine Nat.le_trans tail ?_
      omega

theorem processed_fields (context : Context) (entry : Entry) (required : List Text)
    (properties : List (Text × Schema)) (used : List Text) (registry : Registry) :
    (fieldsOf context entry required properties used registry).2.1.processed =
      registry.processed := by
  induction properties generalizing used registry with
  | nil => rfl
  | cons property rest induction =>
      obtain ⟨name, schema⟩ := property
      simp only [fieldsOf]
      rw [induction, processed_resolve]

theorem weight_record_lt (done : List Text) (context : Context) (entry : Entry)
    (registry : Registry) :
    weightOutside done (recordOf context entry registry).2.1.entries <
      weightOutside done registry.entries + entry.schema.size := by
  have positive := entry.schema.size_pos
  unfold recordOf
  split
  rename_i fields after notices step
  dsimp only
  split at step
  · rename_i properties required shape
    have bound := weight_fields_le done context entry required properties [] registry
    rw [step] at bound
    rw [shape, Schema.size]
    dsimp only at bound
    omega
  · cases step
    omega

theorem processed_record (context : Context) (entry : Entry) (registry : Registry) :
    (recordOf context entry registry).2.1.processed = registry.processed := by
  unfold recordOf
  split
  rename_i fields after notices step
  dsimp only
  split at step
  · rename_i properties required shape
    have kept := processed_fields context entry required properties [] registry
    rw [step] at kept
    exact kept
  · cases step
    rfl

end DtoForge.Resolution
