import DtoForge.Proofs.Resolution.Denotation

/-!
The registry after the declared definitions have been registered. Every declared key has a type
name; a key without an entry of its own shares the entry of an object with its signature. The
signatures in the table are those of the entries with properties, and the other definitions have
their entries in the order of the definitions.
-/

namespace DtoForge.Resolution

open Registry

def declaredEntry (key name : Text) (schema : Schema) : Entry :=
  ⟨key, name, schema, schema.signature, none⟩

/-- The entry that a declared definition goes by: its own, or one of the same signature. -/
def Represents (pair : Text × Entry) (key : Text) (schema : Schema) : Prop :=
  pair.1 = key ∧ pair.2.schema = schema ∨
    schema.hasProperties = true ∧ pair.2.schema.hasProperties = true ∧
      pair.2.signature = schema.signature

/-- The entries that the signature table has to list. -/
def CanonicalEntry (registry : Registry) (signature name : Text) : Prop :=
  ∃ pair ∈ registry.entries, pair.2.schema.hasProperties = true ∧
    pair.2.signature = signature ∧ pair.2.typeName = name

structure Seeded (definitions : Definitions) (registry : Registry) : Prop where
  consistent : Consistent registry
  entries : ∀ pair ∈ registry.entries, (pair.1, pair.2.schema) ∈ definitions ∧
    pair.2.signature = pair.2.schema.signature ∧ pair.2.scope = none
  references : ∀ key schema, (key, schema) ∈ definitions → ∃ pair ∈ registry.entries,
    registry.lookupReference key = some pair.2.typeName ∧ Represents pair key schema
  declared : ∀ key name, registry.lookupReference key = some name → key ∈ definitions.keys
  canonical : ∀ signature name, registry.canonicalName signature = some name ↔
    CanonicalEntry registry signature name
  shapeless : (registry.entries.filter fun pair => !pair.2.schema.hasProperties).map
    (fun pair => (pair.1, pair.2.schema)) =
      definitions.filter fun definition => !definition.2.hasProperties
  unprocessed : registry.processed = []
  unrecorded : registry.recordsByKey = []

theorem seeded_empty : Seeded [] empty where
  consistent := consistent_empty
  entries := by simp [empty]
  references := by simp
  declared := by simp [empty, lookupReference, Table.get?]
  canonical := by simp [empty, canonicalName, Table.get?, CanonicalEntry]
  shapeless := rfl
  unprocessed := rfl
  unrecorded := rfl

variable {done : Definitions} {registry : Registry} {key : Text} {schema : Schema}

theorem Seeded.unowned (seeded : Seeded done registry) (absent : key ∉ done.keys) :
    key ∉ registry.entries.keys := by
  intro owned
  obtain ⟨pair, member, rfl⟩ := List.mem_map.mp owned
  exact absent (Table.mem_keys_of_mem _ _ _ (seeded.entries pair member).1)

theorem Seeded.extend_references (seeded : Seeded done registry) (absent : key ∉ done.keys)
    {after : Registry} {pair : Text × Entry}
    (kept : ∀ old ∈ registry.entries, old ∈ after.entries)
    (bound : after.declaredNames = registry.declaredNames.put key pair.2.typeName)
    (held : pair ∈ after.entries) (represents : Represents pair key schema) :
    ∀ other node, (other, node) ∈ done ++ [(key, schema)] → ∃ owner ∈ after.entries,
      after.lookupReference other = some owner.2.typeName ∧ Represents owner other node := by
  intro other node member
  rw [lookupReference, bound]
  rcases List.mem_append.mp member with old | new
  · have differ : other ≠ key := by
      rintro rfl
      exact absent (Table.mem_keys_of_mem _ _ _ old)
    obtain ⟨owner, ownerHeld, looked, represented⟩ := seeded.references other node old
    rw [Table.get_put_of_ne _ _ _ _ differ]
    exact ⟨owner, kept owner ownerHeld, looked, represented⟩
  · simp only [List.mem_singleton, Prod.mk.injEq] at new
    obtain ⟨rfl, rfl⟩ := new
    rw [Table.get_put_self]
    exact ⟨pair, held, rfl, represents⟩

theorem Seeded.extend_declared (seeded : Seeded done registry) {after : Registry} {name : Text}
    (bound : after.declaredNames = registry.declaredNames.put key name) :
    ∀ other found, after.lookupReference other = some found →
      other ∈ Table.keys (done ++ [(key, schema)]) := by
  intro other found looked
  simp only [Table.keys, List.map_append, List.map_singleton, List.mem_append,
    List.mem_singleton]
  rw [lookupReference, bound] at looked
  rcases get_put_cases _ _ _ _ _ looked with ⟨rfl, -⟩ | old
  · exact Or.inr rfl
  · exact Or.inl (seeded.declared other found old)

theorem Seeded.alias (seeded : Seeded done registry) (absent : key ∉ done.keys)
    (consistent : Consistent (registry.seed key schema).2) {canonical : Text}
    (shaped : schema.hasProperties = true)
    (found : registry.canonicalName schema.signature = some canonical)
    (result : registry.seed key schema =
      (canonical, (registry.take key).declareName key canonical)) :
    Seeded (done ++ [(key, schema)]) (registry.seed key schema).2 := by
  obtain ⟨pair, held, pairShaped, same, rfl⟩ := (seeded.canonical _ _).mp found
  rw [result] at consistent ⊢
  constructor
  case consistent => exact consistent
  case entries =>
    intro other member
    obtain ⟨declared, rest⟩ := seeded.entries other member
    exact ⟨List.mem_append_left _ declared, rest⟩
  case references =>
    exact seeded.extend_references absent (fun _ old => old) rfl held
      (Or.inr ⟨shaped, pairShaped, same⟩)
  case declared => exact seeded.extend_declared rfl
  case canonical => exact seeded.canonical
  case shapeless =>
    rw [List.filter_append, ← seeded.shapeless]
    simp [shaped, declareName, take]
  case unprocessed => exact seeded.unprocessed
  case unrecorded => exact seeded.unrecorded

theorem Seeded.append (seeded : Seeded done registry) (absent : key ∉ done.keys)
    {after : Registry} {name : Text} (consistent : Consistent after)
    (grown : after.entries = registry.entries ++ [(key, declaredEntry key name schema)])
    (bound : after.declaredNames = registry.declaredNames.put key name)
    (canonical : ∀ signature other, after.canonicalName signature = some other ↔
      CanonicalEntry after signature other)
    (unprocessed : after.processed = registry.processed)
    (unrecorded : after.recordsByKey = registry.recordsByKey) :
    Seeded (done ++ [(key, schema)]) after := by
  have held : (key, declaredEntry key name schema) ∈ after.entries := by simp [grown]
  constructor
  case consistent => exact consistent
  case entries =>
    intro pair member
    rw [grown] at member
    rcases List.mem_append.mp member with old | new
    · obtain ⟨declared, rest⟩ := seeded.entries pair old
      exact ⟨List.mem_append_left _ declared, rest⟩
    · rw [List.mem_singleton.mp new]
      simp [declaredEntry]
  case references =>
    exact seeded.extend_references absent (fun old member => by simp [grown, member]) bound held
      (Or.inl ⟨rfl, rfl⟩)
  case declared => exact seeded.extend_declared bound
  case canonical => exact canonical
  case shapeless =>
    rw [grown, List.filter_append, List.filter_append, List.map_append, seeded.shapeless]
    cases shaped : schema.hasProperties <;> simp [declaredEntry, shaped]
  case unprocessed => exact unprocessed.trans seeded.unprocessed
  case unrecorded => exact unrecorded.trans seeded.unrecorded

theorem canonical_entry_append {before after : Registry} {pair : Text × Entry}
    (grown : after.entries = before.entries ++ [pair]) (signature name : Text) :
    CanonicalEntry after signature name ↔ CanonicalEntry before signature name ∨
      pair.2.schema.hasProperties = true ∧ pair.2.signature = signature ∧
        pair.2.typeName = name := by
  simp only [CanonicalEntry, grown, List.mem_append, List.mem_singleton, or_and_right, exists_or,
    exists_eq_left]

theorem canonical_shared {before after : Registry} {pair : Text × Entry}
    (grown : after.entries = before.entries ++ [pair])
    (canonical : ∀ signature name, before.canonicalName signature = some name ↔
      CanonicalEntry before signature name)
    (missing : before.canonicalName pair.2.signature = none)
    (shaped : pair.2.schema.hasProperties = true)
    (shared : after.namesBySignature =
      before.namesBySignature.put pair.2.signature pair.2.typeName) (signature name : Text) :
    after.canonicalName signature = some name ↔ CanonicalEntry after signature name := by
  rw [canonical_entry_append grown, ← canonical, canonicalName, shared]
  by_cases same : signature = pair.2.signature
  · subst same
    rw [Table.get_put_self, missing]
    simp [shaped]
  · rw [Table.get_put_of_ne _ _ _ _ same, ← canonicalName]
    simp [Ne.symm same]

theorem Seeded.new_shape (seeded : Seeded done registry) (absent : key ∉ done.keys)
    (consistent : Consistent (registry.seed key schema).2) {name : Text}
    (shaped : schema.hasProperties = true)
    (missing : registry.canonicalName schema.signature = none)
    (result : registry.seed key schema =
      (name, ((registry.add (declaredEntry key name schema)).declareName key name).share
        schema.signature name)) :
    Seeded (done ++ [(key, schema)]) (registry.seed key schema).2 := by
  have grown := add_entries registry (declaredEntry key name schema) (seeded.unowned absent)
  rw [result] at consistent ⊢
  exact seeded.append absent consistent grown rfl
    (canonical_shared grown seeded.canonical missing shaped rfl) rfl rfl

theorem Seeded.plain (seeded : Seeded done registry) (absent : key ∉ done.keys)
    (consistent : Consistent (registry.seed key schema).2) {name : Text}
    (shapeless : schema.hasProperties = false)
    (result : registry.seed key schema =
      (name, (registry.add (declaredEntry key name schema)).declareName key name)) :
    Seeded (done ++ [(key, schema)]) (registry.seed key schema).2 := by
  have grown := add_entries registry (declaredEntry key name schema) (seeded.unowned absent)
  rw [result] at consistent ⊢
  refine seeded.append absent consistent grown rfl ?_ rfl rfl
  intro signature other
  refine Iff.trans ?_ (canonical_entry_append grown signature other).symm
  simp only [declaredEntry, shapeless, Bool.false_eq_true, false_and, or_false]
  exact seeded.canonical signature other

theorem Seeded.seed (seeded : Seeded done registry) (schema : Schema) (absent : key ∉ done.keys) :
    Seeded (done ++ [(key, schema)]) (registry.seed key schema).2 := by
  have consistent := seeded.consistent.seeded key schema (seeded.unowned absent)
  rcases seed_effect registry key schema with
    ⟨canonical, shaped, found, result⟩ | ⟨name, -, shaped, missing, result⟩ |
      ⟨name, -, shapeless, result⟩
  · exact seeded.alias absent consistent shaped found result
  · exact seeded.new_shape absent consistent shaped missing result
  · exact seeded.plain absent consistent shapeless result

theorem Seeded.seed_all (rest : Definitions) (seeded : Seeded done registry)
    (distinct : Table.keys (done ++ rest) |>.Nodup) :
    Seeded (done ++ rest) (seedAll rest registry).1 := by
  induction rest generalizing done registry with
  | nil => simpa [seedAll] using seeded
  | cons definition rest induction =>
      obtain ⟨key, schema⟩ := definition
      have absent : key ∉ done.keys := by
        intro declared
        rw [Table.keys, List.map_append] at distinct
        exact (List.nodup_append.mp distinct).2.2 key declared key (by simp) rfl
      have extended := induction (seeded.seed schema absent) (by simpa using distinct)
      simpa [seedAll] using extended

def seeds (definitions : Definitions) : Registry := (seedAll definitions Registry.empty).1

theorem seeded_seeds (definitions : Definitions) (distinct : definitions.keys.Nodup) :
    Seeded definitions (seeds definitions) :=
  seeded_empty.seed_all definitions distinct

end DtoForge.Resolution
