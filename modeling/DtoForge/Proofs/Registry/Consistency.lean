import DtoForge.Proofs.Naming.Fresh
import DtoForge.Registry

/-!
The consistency of a registry: keys and type names are pairwise distinct and taken, every name in
the two look-up tables is some entry's type name, and work is in progress only on entries without
a record. Each operation is first reduced to the elementary changes that it is made of; the
changes keep consistency one by one.
-/

namespace DtoForge.Registry

def Named (registry : Registry) (name : Text) : Prop :=
  ∃ pair ∈ registry.entries, pair.2.typeName = name

structure Consistent (registry : Registry) : Prop where
  keyed : ∀ pair ∈ registry.entries, pair.2.key = pair.1
  keysDistinct : registry.entries.keys.Nodup
  namesDistinct : (registry.entries.map (·.2.typeName)).Nodup
  entriesTaken : ∀ pair ∈ registry.entries,
    pair.1 ∈ registry.taken ∧ pair.2.typeName ∈ registry.taken
  declaredTaken : ∀ key name, registry.lookupReference key = some name → key ∈ registry.taken
  declaredNamed : ∀ key name, registry.lookupReference key = some name → registry.Named name
  canonicalNamed : ∀ signature name,
    registry.canonicalName signature = some name → registry.Named name
  progressPending : ∀ key ∈ registry.inProgress,
    key ∈ registry.entries.keys ∧ key ∉ registry.processed
  processedOwned : ∀ key ∈ registry.processed, key ∈ registry.entries.keys
  recorded : ∀ key, (registry.recordFor key).isSome ↔ key ∈ registry.processed

theorem mem_pending_iff (registry : Registry) (key : Text) :
    key ∈ registry.pendingKeys ↔ key ∈ registry.entries.keys ∧ key ∉ registry.processed := by
  simp [pendingKeys]

theorem consistent_empty : Consistent empty where
  keyed := by simp [empty]
  keysDistinct := List.nodup_nil
  namesDistinct := List.nodup_nil
  entriesTaken := by simp [empty]
  declaredTaken := by simp [empty, lookupReference, Table.get?]
  declaredNamed := by simp [empty, lookupReference, Table.get?]
  canonicalNamed := by simp [empty, canonicalName, Table.get?]
  progressPending := by simp [empty]
  processedOwned := by simp [empty]
  recorded := by simp [empty, recordFor, Table.get?]

/-! ### What the operations are made of -/

theorem candidate_effect (registry : Registry) (hint : Option Text) :
    ∃ count, (registry.candidateName hint).2 = { registry with positionalCount := count } := by
  unfold candidateName
  cases hint with
  | none => exact ⟨_, rfl⟩
  | some hint =>
      dsimp only
      split
      · exact ⟨_, rfl⟩
      · exact ⟨registry.positionalCount, rfl⟩

theorem promoted_effect (registry : Registry) (hint : Option Text) (schema : Schema)
    (signature : Text) :
    ∃ name count, name ∉ registry.taken ∧
      registry.registerPromoted hint schema signature =
        (name, (({ registry with positionalCount := count } : Registry).add
          ⟨name, name, schema, signature, none⟩).share signature name) := by
  obtain ⟨count, counted⟩ := candidate_effect registry hint
  refine ⟨_, count, Naming.uniquify_not_mem (registry.candidateName hint).1 registry.taken none, ?_⟩
  simp only [registerPromoted, counted]

theorem inline_effect (registry : Registry) (hint : Option Text) (schema : Schema)
    (signature : Text) (enclosing : Option Entry) :
    ∃ name count, name ∉ registry.taken ∧
      registry.registerInline hint schema signature enclosing =
        (name, ({ registry with positionalCount := count } : Registry).add
          ⟨name, name, schema, signature, enclosing.map (·.host)⟩) := by
  obtain ⟨count, counted⟩ := candidate_effect registry hint
  refine ⟨_, count, Naming.uniquify_not_mem (registry.candidateName hint).1 registry.taken
    (enclosing.map (·.typeName)), ?_⟩
  simp only [registerInline, counted]

/-- A seed names an earlier shape anew, registers a new shape that others may share, or registers
a definition that is not shared at all. -/
theorem seed_effect (registry : Registry) (key : Text) (schema : Schema) :
    (∃ canonical, schema.hasProperties = true ∧
      registry.canonicalName schema.signature = some canonical ∧
      registry.seed key schema = (canonical, (registry.take key).declareName key canonical)) ∨
    (∃ name, name ∉ registry.taken ∧ schema.hasProperties = true ∧
      registry.canonicalName schema.signature = none ∧
      registry.seed key schema =
        (name, ((registry.add ⟨key, name, schema, schema.signature, none⟩).declareName
          key name).share schema.signature name)) ∨
    (∃ name, name ∉ registry.taken ∧ schema.hasProperties = false ∧
      registry.seed key schema =
        (name,
          (registry.add ⟨key, name, schema, schema.signature, none⟩).declareName key name)) := by
  have fresh := Naming.uniquify_not_mem (Naming.typeName key) registry.taken none
  unfold seed
  split
  · rename_i shaped
    split
    · rename_i canonical found
      exact Or.inl ⟨canonical, shaped, found, rfl⟩
    · rename_i missing
      exact Or.inr (Or.inl ⟨_, fresh, shaped, missing, rfl⟩)
  · rename_i shapeless
    exact Or.inr (Or.inr ⟨_, fresh, by simpa using shapeless, rfl⟩)

theorem begin_effect (registry : Registry) (key : Text) (pending : key ∈ registry.pendingKeys) :
    ∃ entry progress, registry.entries.get? key = some entry ∧
      registry.begin key = (.ok entry, { registry with inProgress := progress }) ∧
      ∀ other, other ∈ progress ↔ other = key ∨ other ∈ registry.inProgress := by
  obtain ⟨owned, unprocessed⟩ := (mem_pending_iff registry key).mp pending
  obtain ⟨entry, stored⟩ := Option.isSome_iff_exists.mp
    ((Table.contains_iff registry.entries key).mpr owned)
  have read (progress : List Text) :
      ({ registry with inProgress := progress } : Registry).entry key = .ok entry := by
    simp [Registry.entry, stored]
  unfold begin
  rw [if_neg (by simpa using unprocessed)]
  by_cases busy : registry.isInProgress key = true
  · refine ⟨entry, registry.inProgress, stored, ?_, ?_⟩
    · simp only [if_pos busy]
      rw [read registry.inProgress]
    · intro other
      have member : key ∈ registry.inProgress := by simpa [isInProgress] using busy
      constructor
      · exact Or.inr
      · rintro (rfl | old)
        · exact member
        · exact old
  · refine ⟨entry, key :: registry.inProgress, stored, ?_, fun other => List.mem_cons⟩
    simp only [if_neg busy]
    rw [read (key :: registry.inProgress)]

/-! ### The elementary changes keep consistency -/

variable {registry : Registry}

theorem Named.of_grown {before after : Registry} {name : Text} {added : List (Text × Entry)}
    (grown : after.entries = before.entries ++ added) (named : before.Named name) :
    after.Named name := by
  obtain ⟨pair, member, same⟩ := named
  exact ⟨pair, grown ▸ List.mem_append_left added member, same⟩

theorem Consistent.counted (sound : Consistent registry) (count : Nat) :
    Consistent { registry with positionalCount := count } :=
  { sound with }

theorem add_entries (registry : Registry) (entry : Entry)
    (unowned : entry.key ∉ registry.entries.keys) :
    (registry.add entry).entries = registry.entries ++ [(entry.key, entry)] :=
  Table.put_of_absent registry.entries entry.key entry unowned

theorem Consistent.unowned_of_fresh (sound : Consistent registry) {name : Text}
    (fresh : name ∉ registry.taken) : name ∉ registry.entries.keys := by
  intro owned
  obtain ⟨pair, member, rfl⟩ := List.mem_map.mp owned
  exact fresh (sound.entriesTaken pair member).1

theorem Consistent.added (sound : Consistent registry) (entry : Entry)
    (unowned : entry.key ∉ registry.entries.keys) (fresh : entry.typeName ∉ registry.taken) :
    Consistent (registry.add entry) := by
  have grown := add_entries registry entry unowned
  have keys : (registry.add entry).entries.keys = registry.entries.keys ++ [entry.key] := by
    rw [grown]
    simp [Table.keys]
  have otherName : ∀ pair ∈ registry.entries, pair.2.typeName ≠ entry.typeName := by
    intro pair member same
    exact fresh (same ▸ (sound.entriesTaken pair member).2)
  constructor
  case keyed =>
    intro pair member
    rw [grown] at member
    rcases List.mem_append.mp member with old | new
    · exact sound.keyed pair old
    · rw [List.mem_singleton.mp new]
  case keysDistinct =>
    rw [keys, ← List.concat_eq_append]
    exact sound.keysDistinct.concat unowned
  case namesDistinct =>
    rw [grown, List.map_append, List.map_singleton, ← List.concat_eq_append]
    apply sound.namesDistinct.concat
    intro member
    obtain ⟨pair, old, same⟩ := List.mem_map.mp member
    exact otherName pair old same
  case entriesTaken =>
    intro pair member
    rw [grown] at member
    rcases List.mem_append.mp member with old | new
    · have held := sound.entriesTaken pair old
      simp [add, held.1, held.2]
    · simp [add, List.mem_singleton.mp new]
  case declaredTaken =>
    intro key name found
    exact List.mem_cons_of_mem _ (List.mem_cons_of_mem _ (sound.declaredTaken key name found))
  case declaredNamed =>
    intro key name found
    exact (sound.declaredNamed key name found).of_grown grown
  case canonicalNamed =>
    intro signature name found
    exact (sound.canonicalNamed signature name found).of_grown grown
  case progressPending =>
    intro key busy
    rw [keys]
    exact ⟨List.mem_append_left _ (sound.progressPending key busy).1,
      (sound.progressPending key busy).2⟩
  case processedOwned =>
    intro key processed
    rw [keys]
    exact List.mem_append_left _ (sound.processedOwned key processed)
  case recorded => exact sound.recorded

theorem added_named (entry : Entry) (unowned : entry.key ∉ registry.entries.keys) :
    (registry.add entry).Named entry.typeName := by
  refine ⟨(entry.key, entry), ?_, rfl⟩
  rw [add_entries registry entry unowned]
  simp

theorem Consistent.taken (sound : Consistent registry) (name : Text) :
    Consistent (registry.take name) :=
  { sound with
    entriesTaken := fun pair member =>
      ⟨List.mem_cons_of_mem _ (sound.entriesTaken pair member).1,
        List.mem_cons_of_mem _ (sound.entriesTaken pair member).2⟩
    declaredTaken := fun key other found =>
      List.mem_cons_of_mem _ (sound.declaredTaken key other found) }

theorem get_put_cases {α : Type} (table : Table α) (key other : Text) (value found : α)
    (looked : (table.put key value).get? other = some found) :
    other = key ∧ found = value ∨ table.get? other = some found := by
  by_cases same : other = key
  · subst same
    rw [Table.get_put_self] at looked
    exact Or.inl ⟨rfl, (Option.some.inj looked).symm⟩
  · rw [Table.get_put_of_ne _ _ _ _ same] at looked
    exact Or.inr looked

theorem Consistent.shared (sound : Consistent registry) (signature name : Text)
    (named : registry.Named name) : Consistent (registry.share signature name) :=
  { sound with
    canonicalNamed := by
      intro other found looked
      rcases get_put_cases _ _ _ _ _ looked with ⟨-, rfl⟩ | old
      · exact named
      · exact sound.canonicalNamed other found old }

theorem Consistent.declared (sound : Consistent registry) (key name : Text)
    (named : registry.Named name) (taken : key ∈ registry.taken) :
    Consistent (registry.declareName key name) :=
  { sound with
    declaredTaken := by
      intro other found looked
      rcases get_put_cases _ _ _ _ _ looked with ⟨rfl, -⟩ | old
      · exact taken
      · exact sound.declaredTaken other found old
    declaredNamed := by
      intro other found looked
      rcases get_put_cases _ _ _ _ _ looked with ⟨-, rfl⟩ | old
      · exact named
      · exact sound.declaredNamed other found old }

theorem Consistent.begun (sound : Consistent registry) (key : Text)
    (pending : key ∈ registry.pendingKeys) : Consistent (registry.begin key).2 := by
  obtain ⟨entry, progress, -, marked, members⟩ := begin_effect registry key pending
  rw [marked]
  exact { sound with
    progressPending := by
      intro other busy
      rcases (members other).mp busy with rfl | old
      · exact (mem_pending_iff registry other).mp pending
      · exact sound.progressPending other old }

theorem complete_processed (key : Text) (record : Record)
    (unprocessed : key ∉ registry.processed) :
    (registry.complete key record).processed = key :: registry.processed := by
  simp [complete, unprocessed]

theorem Consistent.completed (sound : Consistent registry) (key : Text) (record : Record)
    (busy : key ∈ registry.inProgress) : Consistent (registry.complete key record) := by
  obtain ⟨owned, unprocessed⟩ := sound.progressPending key busy
  have processed := complete_processed key record unprocessed
  constructor
  case keyed => exact sound.keyed
  case keysDistinct => exact sound.keysDistinct
  case namesDistinct => exact sound.namesDistinct
  case entriesTaken => exact sound.entriesTaken
  case declaredTaken => exact sound.declaredTaken
  case declaredNamed => exact sound.declaredNamed
  case canonicalNamed => exact sound.canonicalNamed
  case progressPending =>
    intro other kept
    simp only [complete, List.mem_filter, decide_eq_true_eq] at kept
    rw [processed, List.mem_cons, not_or]
    exact ⟨(sound.progressPending other kept.1).1, kept.2, (sound.progressPending other kept.1).2⟩
  case processedOwned =>
    intro other member
    rw [processed] at member
    rcases List.mem_cons.mp member with rfl | old
    · exact owned
    · exact sound.processedOwned other old
  case recorded =>
    intro other
    rw [processed, List.mem_cons, ← sound.recorded other]
    by_cases same : other = key
    · subst same
      simp [recordFor, complete, Table.get_put_self]
    · simp [recordFor, complete, Table.get_put_of_ne _ _ _ _ same, same]

/-! ### The registrations keep consistency -/

theorem Consistent.seeded (sound : Consistent registry) (key : Text) (schema : Schema)
    (unowned : key ∉ registry.entries.keys) : Consistent (registry.seed key schema).2 := by
  rcases seed_effect registry key schema with
    ⟨canonical, -, found, seeded⟩ | ⟨name, fresh, -, -, seeded⟩ | ⟨name, fresh, -, seeded⟩
  · rw [seeded]
    exact (sound.taken key).declared key canonical (sound.canonicalNamed _ _ found)
      List.mem_cons_self
  · rw [seeded]
    let entry : Entry := ⟨key, name, schema, schema.signature, none⟩
    have named := added_named entry unowned
    have declared := (sound.added entry unowned fresh).declared key name named
      (by simp [add, entry])
    exact declared.shared schema.signature name named
  · rw [seeded]
    let entry : Entry := ⟨key, name, schema, schema.signature, none⟩
    exact (sound.added entry unowned fresh).declared key name (added_named entry unowned)
      (by simp [add, entry])

theorem Consistent.promoted (sound : Consistent registry) (hint : Option Text) (schema : Schema)
    (signature : Text) : Consistent (registry.registerPromoted hint schema signature).2 := by
  obtain ⟨name, count, fresh, registered⟩ := promoted_effect registry hint schema signature
  rw [registered]
  let entry : Entry := ⟨name, name, schema, signature, none⟩
  have unowned := sound.unowned_of_fresh fresh
  exact ((sound.counted count).added entry unowned fresh).shared signature name
    (added_named entry unowned)

theorem Consistent.inlined (sound : Consistent registry) (hint : Option Text) (schema : Schema)
    (signature : Text) (enclosing : Option Entry) :
    Consistent (registry.registerInline hint schema signature enclosing).2 := by
  obtain ⟨name, count, fresh, registered⟩ := inline_effect registry hint schema signature enclosing
  rw [registered]
  exact (sound.counted count).added ⟨name, name, schema, signature, enclosing.map (·.host)⟩
    (sound.unowned_of_fresh fresh) fresh

end DtoForge.Registry
