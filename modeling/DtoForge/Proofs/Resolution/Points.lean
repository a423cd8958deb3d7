import DtoForge.Proofs.Resolution.Turns

/-!
The points of a run. A point is a turn together with the number of properties that it has resolved;
what stands at a point is fixed by the start. From point to point the registry grows, between
neighbours of one turn by one entry at most.
-/

namespace DtoForge.Resolution

open Registry

variable {context : Context} {registry before begun worked last : Registry} {key : Text}
  {keys rest : List Text} {entry : Entry} {record : Record} {notices : List Notice}

def afterProperty (context : Context) (entry : Entry) (registry : Registry)
    (property : Text × Schema) : Registry :=
  (resolve context.inlineThreshold context.policy (some property.1) (some entry) registry
    property.2).2.1

def stage (context : Context) (entry : Entry) (begun : Registry) (index : Nat) : Registry :=
  (entry.schema.properties.take index).foldl (afterProperty context entry) begun

/-- The registry at a point of a run: some turns are over, and in the next one the first few
properties have been resolved. -/
inductive StandsAt (context : Context) : Registry → List Text → Nat → Nat → Registry → Prop
  | now {before begun : Registry} {key : Text} {rest : List Text} {entry : Entry} (index : Nat)
      (begins : before.begin key = (.ok entry, begun)) :
      StandsAt context before (key :: rest) 0 index (stage context entry begun index)
  | later {before begun worked state : Registry} {key : Text} {rest : List Text} {entry : Entry}
      {record : Record} {notices : List Notice} {turn index : Nat}
      (begins : before.begin key = (.ok entry, begun))
      (builds : recordOf context entry begun = (record, worked, notices))
      (inner : StandsAt context (worked.complete key record) rest turn index state) :
      StandsAt context before (key :: rest) (turn + 1) index state

theorem fields_registry (required : List Text) (properties : List (Text × Schema))
    (used : List Text) (registry : Registry) :
    (fieldsOf context entry required properties used registry).2.1 =
      properties.foldl (afterProperty context entry) registry := by
  induction properties generalizing used registry with
  | nil => rfl
  | cons property rest induction => exact induction _ _

theorem record_registry (context : Context) (entry : Entry) (begun : Registry) :
    (recordOf context entry begun).2.1 =
      stage context entry begun entry.schema.properties.length := by
  rw [stage, List.take_length, recordOf]
  cases entry.schema with
  | object properties required => exact fields_registry required properties [] begun
  | array | primitive | reference | unknown => rfl

theorem field_type (required : List Text) (properties : List (Text × Schema))
    (used : List Text) (registry : Registry) {index : Nat} {property : Text × Schema}
    (stands : properties[index]? = some property) :
    ∃ field, (fieldsOf context entry required properties used registry).1[index]? = some field ∧
      field.type = (resolve context.inlineThreshold context.policy (some property.1) (some entry)
        ((properties.take index).foldl (afterProperty context entry) registry) property.2).1 := by
  induction properties generalizing index used registry with
  | nil => simp at stands
  | cons head rest induction =>
      cases index with
      | zero =>
          simp only [List.getElem?_cons_zero, Option.some.injEq] at stands
          subst stands
          exact ⟨_, rfl, rfl⟩
      | succ index => exact induction _ _ (by simpa using stands)

theorem record_field_type (context : Context) (entry : Entry) (begun : Registry) {index : Nat}
    {property : Text × Schema} (stands : entry.schema.properties[index]? = some property) :
    ∃ field, (recordOf context entry begun).1.fields[index]? = some field ∧
      field.type = (resolve context.inlineThreshold context.policy (some property.1) (some entry)
        (stage context entry begun index) property.2).1 := by
  unfold recordOf stage
  cases shape : entry.schema with
  | object properties required =>
      rw [shape] at stands
      exact field_type required properties [] begun stands
  | array | primitive | reference | unknown =>
      rw [shape] at stands
      simp [Schema.properties] at stands

theorem after_property_keeps (sound : Consistent registry) (property : Text × Schema) :
    Consistent (afterProperty context entry registry property) ∧
      Grown registry (afterProperty context entry registry property) := by
  cases resolve_outcome context sound (some property.1) entry property.2 with
  | settled same _ =>
      have kept : afterProperty context entry registry property = registry := same
      rw [kept]
      exact ⟨sound, Grown.refl registry⟩
  | registered registration _ _ => exact ⟨registration.consistent, registration.grown⟩

theorem properties_keep (sound : Consistent registry) (properties : List (Text × Schema)) :
    Consistent (properties.foldl (afterProperty context entry) registry) ∧
      Grown registry (properties.foldl (afterProperty context entry) registry) := by
  induction properties generalizing registry with
  | nil => exact ⟨sound, Grown.refl registry⟩
  | cons property rest induction =>
      obtain ⟨first, grown⟩ := after_property_keeps sound property
      obtain ⟨others, grownLater⟩ := induction first
      exact ⟨others, grown.trans grownLater⟩

theorem stage_consistent (context : Context) (entry : Entry) (sound : Consistent begun)
    (index : Nat) : Consistent (stage context entry begun index) :=
  (properties_keep sound _).1

theorem stage_grown (sound : Consistent begun) {index next : Nat} (order : index ≤ next) :
    Grown (stage context entry begun index) (stage context entry begun next) := by
  have split : entry.schema.properties.take next = entry.schema.properties.take index ++
      (entry.schema.properties.take next).drop index := by
    have cut := List.take_append_drop index (entry.schema.properties.take next)
    rw [List.take_take, Nat.min_eq_left order] at cut
    exact cut.symm
  rw [stage, stage, split, List.foldl_append]
  exact (properties_keep (stage_consistent context entry sound index) _).2

theorem stage_grown_worked (sound : Consistent begun)
    (builds : recordOf context entry begun = (record, worked, notices)) (index : Nat) :
    Grown (stage context entry begun index) worked := by
  have full := record_registry context entry begun
  rw [builds] at full
  dsimp only at full
  rw [full]
  rcases Nat.le_total index entry.schema.properties.length with within | beyond
  · exact stage_grown sound within
  · rw [stage, stage, List.take_length, List.take_of_length_le beyond]
    exact Grown.refl _

theorem stage_succ {index : Nat} {property : Text × Schema}
    (stands : entry.schema.properties[index]? = some property) :
    stage context entry begun (index + 1) =
      afterProperty context entry (stage context entry begun index) property := by
  rw [stage, stage, List.take_add_one, stands, List.foldl_append]
  rfl

theorem Registration.name_of_new {enclosing : Entry} {nested : Schema} {made name : Text}
    {before after : Registry}
    (registration : Registration context enclosing nested made before after)
    (missing : name ∉ before.entries.keys) (there : name ∈ after.entries.keys) : name = made := by
  rw [registration.entries, Table.keys, List.map_append, List.mem_append] at there
  exact List.mem_singleton.mp (there.resolve_left missing)

/-- From one property to the next the registry stays as it is, or the object under the property is
registered, and the type of the property names it. -/
theorem stage_step (context : Context) (entry : Entry) (sound : Consistent begun) (index : Nat) :
    stage context entry begun (index + 1) = stage context entry begun index ∨
      ∃ property name, entry.schema.properties[index]? = some property ∧
        Registration context entry property.2.core name (stage context entry begun index)
          (stage context entry begun (index + 1)) ∧
        (resolve context.inlineThreshold context.policy (some property.1) (some entry)
          (stage context entry begun index) property.2).1.recordName? = some name := by
  cases stood : entry.schema.properties[index]? with
  | none =>
      have beyond := List.getElem?_eq_none_iff.mp stood
      left
      rw [stage, stage, List.take_of_length_le beyond,
        List.take_of_length_le (Nat.le_succ_of_le beyond)]
  | some property =>
      have outcome := resolve_outcome context (stage_consistent context entry sound index)
        (some property.1) entry property.2
      rw [stage_succ stood]
      cases outcome with
      | settled same _ => exact Or.inl same
      | registered registration named _ => exact Or.inr ⟨property, _, rfl, registration, named⟩

theorem begun_consistent (sound : Consistent before)
    (begins : before.begin key = (.ok entry, begun)) :
    Consistent begun ∧ Grown before begun ∧ key ∈ before.entries.keys := by
  obtain ⟨unprocessed, stored, -⟩ := begin_ok before begun key entry begins
  have owned := Table.mem_keys_of_mem _ _ _ (Table.mem_of_get _ _ _ stored)
  have pending := (mem_pending_iff before key).mpr ⟨owned, by simpa using unprocessed⟩
  have kept := sound.begun key pending
  obtain ⟨_, progress, -, marked, -⟩ := begin_effect before key pending
  rw [begins] at kept marked
  cases marked
  exact ⟨kept, ⟨List.prefix_refl _, rfl, fun _ _ found => found⟩, owned⟩

variable {start state other : Registry} {turn index turn' index' : Nat} {name : Text}

theorem StandsAt.now_eq (stands : StandsAt context before (key :: rest) 0 index state)
    (begins : before.begin key = (.ok entry, begun)) :
    state = stage context entry begun index := by
  cases stands with
  | now index again =>
      rw [begins] at again
      cases again
      rfl

theorem StandsAt.behind (stands : StandsAt context before (key :: rest) (turn + 1) index state)
    (begins : before.begin key = (.ok entry, begun))
    (builds : recordOf context entry begun = (record, worked, notices)) :
    StandsAt context (worked.complete key record) rest turn index state := by
  cases stands with
  | later again others inner =>
      rw [begins] at again
      cases again
      rw [builds] at others
      cases others
      exact inner

theorem Turns.behind (turns : Turns context before (key :: rest) last)
    (begins : before.begin key = (.ok entry, begun)) :
    ∃ record worked notices, recordOf context entry begun = (record, worked, notices) ∧
      Turns context (worked.complete key record) rest last := by
  cases turns with
  | turn again builds others =>
      rw [begins] at again
      cases again
      exact ⟨_, _, _, builds, others⟩

theorem StandsAt.started (stands : StandsAt context start keys turn index state)
    (sound : Consistent start) :
    Grown start state ∧ Consistent state ∧
      ∃ owner, keys[turn]? = some owner ∧ owner ∈ state.entries.keys := by
  induction stands with
  | @now before begun key rest entry index begins =>
      obtain ⟨kept, grown, owned⟩ := begun_consistent sound begins
      have all : Grown before (stage context entry begun index) :=
        grown.trans (properties_keep kept _).2
      exact ⟨all, stage_consistent context entry kept index, key, rfl,
        (all.entries.map _).subset owned⟩
  | later begins builds _ induction =>
      have settling := settling_of_turn sound begins builds
      obtain ⟨grown, consistent, owner, found, owned⟩ := induction (settling.consistent sound)
      exact ⟨settling.grown.trans grown, consistent, owner, by simpa using found, owned⟩

theorem StandsAt.entries_prefix (stands : StandsAt context start keys turn index state)
    (others : StandsAt context start keys turn' index' other) (sound : Consistent start)
    (order : turn < turn' ∨ turn = turn' ∧ index ≤ index') : state.entries <+: other.entries := by
  induction stands generalizing turn' with
  | @now before begun key rest entry index begins =>
      obtain ⟨kept, -, -⟩ := begun_consistent sound begins
      cases turn' with
      | zero =>
          rw [others.now_eq begins]
          exact (stage_grown kept (by omega)).entries
      | succ turn' =>
          rcases builds : recordOf context entry begun with ⟨record, worked, notices⟩
          have settling := settling_of_turn sound begins builds
          have inner := others.behind begins builds
          exact (stage_grown_worked kept builds index).entries.trans
            (inner.started (settling.consistent sound)).1.entries
  | later begins builds _ induction =>
      cases turn' with
      | zero => omega
      | succ turn' =>
          exact induction (others.behind begins builds)
            ((settling_of_turn sound begins builds).consistent sound) (by omega)

theorem StandsAt.unique (stands : StandsAt context start keys turn index state)
    (again : StandsAt context start keys turn index other) : state = other := by
  induction stands with
  | now index begins => exact (again.now_eq begins).symm
  | later begins builds _ induction => exact induction (again.behind begins builds)

theorem StandsAt.registers (stands : StandsAt context start keys turn index state)
    (next : StandsAt context start keys turn (index + 1) other) (sound : Consistent start)
    (missing : name ∉ state.entries.keys) (there : name ∈ other.entries.keys) :
    ∃ owner enclosing property, keys[turn]? = some owner ∧ (owner, enclosing) ∈ state.entries ∧
      enclosing.schema.properties[index]? = some property ∧
        Registration context enclosing property.2.core name state other := by
  induction stands with
  | @now before begun key rest entry index begins =>
      obtain ⟨kept, grown, -⟩ := begun_consistent sound begins
      obtain ⟨-, stored, -⟩ := begin_ok before begun key entry begins
      rw [next.now_eq begins] at there ⊢
      rcases stage_step context entry kept index with same | ⟨property, made, stood, registration,
        -⟩
      · rw [same] at there
        exact absurd there missing
      · cases registration.name_of_new missing there
        have all : Grown before (stage context entry begun index) :=
          grown.trans (properties_keep kept _).2
        have held : (key, entry) ∈ (stage context entry begun index).entries :=
          all.entries.subset (Table.mem_of_get _ _ _ stored)
        exact ⟨key, entry, property, rfl, held, stood, registration⟩
  | later begins builds _ induction =>
      obtain ⟨owner, enclosing, property, found, others⟩ :=
        induction (next.behind begins builds)
          ((settling_of_turn sound begins builds).consistent sound) missing
      exact ⟨owner, enclosing, property, by simpa using found, others⟩

theorem StandsAt.within (turns : Turns context start keys last)
    (stands : StandsAt context start keys turn index state) (sound : Consistent start) :
    state.entries <+: last.entries := by
  induction stands with
  | now index begins =>
      obtain ⟨kept, -, -⟩ := begun_consistent sound begins
      obtain ⟨record, worked, notices, builds, others⟩ := turns.behind begins
      have settling := settling_of_turn sound begins builds
      exact (stage_grown_worked kept builds index).entries.trans
        (others.grown (settling.consistent sound)).entries
  | later begins builds _ induction =>
      obtain ⟨_, _, _, same, others⟩ := turns.behind begins
      rw [builds] at same
      cases same
      exact induction others ((settling_of_turn sound begins builds).consistent sound)

end DtoForge.Resolution
