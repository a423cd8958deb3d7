import DtoForge.Proofs.Registry.Consistency
import Mathlib.Data.List.Induction

/-!
Histories of a registry. The five operations may come in any order, as long as a seed names a key
without entry, work begins on a pending key and is completed on a key in progress. What the tables
of the registry hold is then read off the history alone: the keys in the order in which the
registrations reported them, and the records in the order of these keys.
-/

namespace DtoForge.Registry

inductive Operation
  | seed (key : Text) (schema : Schema)
  | promote (hint : Option Text) (schema : Schema) (signature : Text)
  | inline (hint : Option Text) (schema : Schema) (signature : Text) (enclosing : Option Entry)
  | begin (key : Text)
  | complete (key : Text) (record : Record)

namespace Operation

def apply (registry : Registry) : Operation → Registry
  | .seed key schema => (registry.seed key schema).2
  | .promote hint schema signature => (registry.registerPromoted hint schema signature).2
  | .inline hint schema signature enclosing =>
    (registry.registerInline hint schema signature enclosing).2
  | .begin key => (registry.begin key).2
  | .complete key record => registry.complete key record

/-- What a caller has to see to before an operation. -/
def Admissible (registry : Registry) : Operation → Prop
  | .seed key _ => registry.hasEntry key = false
  | .promote _ _ _ => True
  | .inline _ _ _ enclosing =>
    ∀ entry, enclosing = some entry → registry.entries.get? entry.key = some entry
  | .begin key => key ∈ registry.pendingKeys
  | .complete key _ => registry.isInProgress key = true

def synthesizes (registry : Registry) : Operation → List Text
  | .promote hint schema signature => [(registry.registerPromoted hint schema signature).1]
  | .inline hint schema signature enclosing =>
    [(registry.registerInline hint schema signature enclosing).1]
  | .seed _ _ | .begin _ | .complete _ _ => []

/-- The keys that the operation registers: a seed that only names an earlier shape has none. -/
def discovers (registry : Registry) : Operation → List Text
  | .seed key schema => if (registry.seed key schema).2.hasEntry key then [key] else []
  | operation => operation.synthesizes registry

def seeded? : Operation → Option Text
  | .seed key _ => some key
  | _ => none

def completed? : Operation → Option (Text × Record)
  | .complete key record => some (key, record)
  | _ => none

end Operation

def perform (registry : Registry) (history : List Operation) : Registry :=
  history.foldl Operation.apply registry

def Admitted (registry : Registry) : List Operation → Prop
  | [] => True
  | operation :: rest =>
    operation.Admissible registry ∧ Admitted (operation.apply registry) rest

def along (measure : Registry → Operation → List Text) (registry : Registry) :
    List Operation → List Text
  | [] => []
  | operation :: rest =>
    measure registry operation ++ along measure (operation.apply registry) rest

def discovered (history : List Operation) : List Text :=
  along Operation.discovers empty history

def synthesized (history : List Operation) : List Text :=
  along Operation.synthesizes empty history

def completions (history : List Operation) : Table Record :=
  history.filterMap Operation.completed?

def completedKeys (history : List Operation) : List Text := (completions history).keys

theorem perform_append (registry : Registry) (before after : List Operation) :
    registry.perform (before ++ after) = (registry.perform before).perform after :=
  List.foldl_append

theorem admitted_append (registry : Registry) (before after : List Operation) :
    registry.Admitted (before ++ after) ↔
      registry.Admitted before ∧ (registry.perform before).Admitted after := by
  induction before generalizing registry with
  | nil => simp [Admitted, perform]
  | cons operation rest induction =>
      simp only [List.cons_append, Admitted, induction, and_assoc]
      rfl

theorem along_append (measure : Registry → Operation → List Text) (registry : Registry)
    (before after : List Operation) :
    along measure registry (before ++ after) =
      along measure registry before ++ along measure (registry.perform before) after := by
  induction before generalizing registry with
  | nil => rfl
  | cons operation rest induction =>
      simp only [List.cons_append, along, induction, List.append_assoc]
      rfl

/-! ### One operation -/

variable {registry : Registry} {operation : Operation}

theorem unowned_of_admissible {key : Text} {schema : Schema}
    (admissible : (Operation.seed key schema).Admissible registry) :
    key ∉ registry.entries.keys := by
  intro owned
  have held : registry.hasEntry key = true := (Table.contains_iff _ _).mpr owned
  simp [held, Operation.Admissible] at admissible

theorem Consistent.applied (sound : Consistent registry)
    (admissible : operation.Admissible registry) : Consistent (operation.apply registry) := by
  cases operation with
  | seed key schema => exact sound.seeded key schema (unowned_of_admissible admissible)
  | promote hint schema signature => exact sound.promoted hint schema signature
  | inline hint schema signature enclosing => exact sound.inlined hint schema signature enclosing
  | begin key => exact sound.begun key admissible
  | complete key record =>
      have busy : key ∈ registry.inProgress := by
        simpa [Operation.Admissible, isInProgress] using admissible
      exact sound.completed key record busy

theorem entries_applied (sound : Consistent registry) (admissible : operation.Admissible registry) :
    ∃ added : Table Entry, (operation.apply registry).entries = registry.entries ++ added ∧
      added.keys = operation.discovers registry ∧
      ∀ name ∈ operation.synthesizes registry, ∃ entry, added.get? name = some entry ∧
        entry.key = name ∧ entry.typeName = name := by
  cases operation with
  | seed key schema =>
      have unowned := unowned_of_admissible admissible
      simp only [Operation.apply, Operation.discovers, Operation.synthesizes]
      rcases seed_effect registry key schema with
        ⟨canonical, -, -, seeded⟩ | ⟨name, -, -, -, seeded⟩ | ⟨name, -, -, seeded⟩
      · refine ⟨[], by simp [seeded, declareName, take], ?_, by simp⟩
        have absent : registry.entries.contains key = false := admissible
        simp [seeded, hasEntry, declareName, take, absent, Table.keys]
      · have grown := add_entries registry ⟨key, name, schema, schema.signature, none⟩ unowned
        refine ⟨_, by rw [seeded]; exact grown, ?_, by simp⟩
        rw [if_pos]
        · rfl
        · rw [seeded]
          exact (Table.contains_iff _ _).mpr (by simp [share, declareName, grown, Table.keys])
      · have grown := add_entries registry ⟨key, name, schema, schema.signature, none⟩ unowned
        refine ⟨_, by rw [seeded]; exact grown, ?_, by simp⟩
        rw [if_pos]
        · rfl
        · rw [seeded]
          exact (Table.contains_iff _ _).mpr (by simp [declareName, grown, Table.keys])
  | promote hint schema signature =>
      obtain ⟨name, count, fresh, registered⟩ := promoted_effect registry hint schema signature
      have grown := add_entries { registry with positionalCount := count }
        ⟨name, name, schema, signature, none⟩ (sound.unowned_of_fresh fresh)
      simp only [Operation.apply, Operation.discovers, Operation.synthesizes, registered]
      exact ⟨_, grown, rfl, by simp [Table.get?]⟩
  | inline hint schema signature enclosing =>
      obtain ⟨name, count, fresh, registered⟩ :=
        inline_effect registry hint schema signature enclosing
      have grown := add_entries { registry with positionalCount := count }
        ⟨name, name, schema, signature, enclosing.map (·.host)⟩ (sound.unowned_of_fresh fresh)
      simp only [Operation.apply, Operation.discovers, Operation.synthesizes, registered]
      exact ⟨_, grown, rfl, by simp [Table.get?]⟩
  | begin key =>
      obtain ⟨entry, progress, -, marked, -⟩ := begin_effect registry key admissible
      exact ⟨[], by simp [Operation.apply, marked], rfl, by simp [Operation.synthesizes]⟩
  | complete key record =>
      exact ⟨[], by simp [Operation.apply, complete], rfl, by simp [Operation.synthesizes]⟩

/-- No operation frees a taken name, and a seed takes its key even where it registers nothing. -/
theorem taken_applied (admissible : operation.Admissible registry) (name : Text)
    (taken : name ∈ registry.taken ∨ operation.seeded? = some name) :
    name ∈ (operation.apply registry).taken := by
  cases operation with
  | seed key schema =>
      have held : name ∈ registry.taken ∨ name = key := by
        rcases taken with old | seeded
        · exact Or.inl old
        · exact Or.inr (Option.some.inj seeded).symm
      rcases seed_effect registry key schema with
        ⟨canonical, -, -, seeded⟩ | ⟨chosen, -, -, -, seeded⟩ | ⟨chosen, -, -, seeded⟩ <;>
      · simp only [Operation.apply, seeded, declareName, take, add, share, List.mem_cons]
        rcases held with old | same
        · simp [old]
        · simp [same]
  | promote hint schema signature =>
      have old : name ∈ registry.taken := by simpa [Operation.seeded?] using taken
      obtain ⟨chosen, count, -, registered⟩ := promoted_effect registry hint schema signature
      simp [Operation.apply, registered, add, share, old]
  | inline hint schema signature enclosing =>
      have old : name ∈ registry.taken := by simpa [Operation.seeded?] using taken
      obtain ⟨chosen, count, -, registered⟩ :=
        inline_effect registry hint schema signature enclosing
      simp [Operation.apply, registered, add, old]
  | begin key =>
      have old : name ∈ registry.taken := by simpa [Operation.seeded?] using taken
      obtain ⟨entry, progress, -, marked, -⟩ := begin_effect registry key admissible
      simpa [Operation.apply, marked] using old
  | complete key record =>
      have old : name ∈ registry.taken := by simpa [Operation.seeded?] using taken
      exact old

theorem completed_applied (sound : Consistent registry)
    (admissible : operation.Admissible registry) :
    (∃ key record, operation.completed? = some (key, record) ∧ key ∉ registry.processed ∧
      (operation.apply registry).processed = key :: registry.processed ∧
      (operation.apply registry).recordsByKey = registry.recordsByKey.put key record) ∨
    (operation.completed? = none ∧ (operation.apply registry).processed = registry.processed ∧
      (operation.apply registry).recordsByKey = registry.recordsByKey) := by
  cases operation with
  | seed key schema =>
      refine Or.inr ⟨rfl, ?_⟩
      rcases seed_effect registry key schema with
        ⟨canonical, -, -, seeded⟩ | ⟨name, -, -, -, seeded⟩ | ⟨name, -, -, seeded⟩ <;>
      simp [Operation.apply, seeded, declareName, take, add, share]
  | promote hint schema signature =>
      obtain ⟨name, count, -, registered⟩ := promoted_effect registry hint schema signature
      exact Or.inr ⟨rfl, by simp [Operation.apply, registered, add, share]⟩
  | inline hint schema signature enclosing =>
      obtain ⟨name, count, -, registered⟩ := inline_effect registry hint schema signature enclosing
      exact Or.inr ⟨rfl, by simp [Operation.apply, registered, add]⟩
  | begin key =>
      obtain ⟨entry, progress, -, marked, -⟩ := begin_effect registry key admissible
      exact Or.inr ⟨rfl, by simp [Operation.apply, marked]⟩
  | complete key record =>
      have busy : key ∈ registry.inProgress := by
        simpa [Operation.Admissible, isInProgress] using admissible
      have unprocessed := (sound.progressPending key busy).2
      exact Or.inl ⟨key, record, rfl, unprocessed, complete_processed key record unprocessed, rfl⟩

/-! ### A whole history -/

/-- The tables of a registry, read off the history that led to it. -/
structure Chronicle (history : List Operation) (registry : Registry) : Prop where
  keys : registry.entries.keys = discovered history
  synthesized : ∀ name ∈ synthesized history, ∃ entry,
    registry.entries.get? name = some entry ∧ entry.key = name ∧ entry.typeName = name
  seedsTaken : ∀ key ∈ history.filterMap Operation.seeded?, key ∈ registry.taken
  processed : ∀ key, key ∈ registry.processed ↔ key ∈ completedKeys history
  recorded : ∀ key, registry.recordFor key = (completions history).get? key

theorem consistent_performed (history : List Operation) (sound : Consistent registry)
    (admitted : registry.Admitted history) : Consistent (registry.perform history) := by
  induction history generalizing registry with
  | nil => exact sound
  | cons operation rest induction => exact induction (sound.applied admitted.1) admitted.2

theorem entries_performed (history : List Operation) (sound : Consistent registry)
    (admitted : registry.Admitted history) :
    ∃ added : Table Entry, (registry.perform history).entries = registry.entries ++ added ∧
      added.keys = along Operation.discovers registry history := by
  induction history generalizing registry with
  | nil => exact ⟨[], by simp [perform], rfl⟩
  | cons operation rest induction =>
      obtain ⟨first, grown, found, -⟩ := entries_applied sound admitted.1
      obtain ⟨later, grownLater, foundLater⟩ := induction (sound.applied admitted.1) admitted.2
      refine ⟨first ++ later, ?_, ?_⟩
      · calc
          (registry.perform (operation :: rest)).entries =
              (operation.apply registry).entries ++ later := grownLater
          _ = registry.entries ++ (first ++ later) := by rw [grown, List.append_assoc]
      · simp only [Table.keys, List.map_append] at found foundLater ⊢
        rw [found, foundLater]
        rfl

theorem perform_snoc (registry : Registry) (history : List Operation) (operation : Operation) :
    registry.perform (history ++ [operation]) = operation.apply (registry.perform history) :=
  perform_append registry history [operation]

theorem along_snoc (measure : Registry → Operation → List Text) (registry : Registry)
    (history : List Operation) (operation : Operation) :
    along measure registry (history ++ [operation]) =
      along measure registry history ++ measure (registry.perform history) operation := by
  rw [along_append]
  simp [along]

theorem chronicle_performed (history : List Operation) (admitted : empty.Admitted history) :
    Chronicle history (empty.perform history) := by
  induction history using List.reverseRecOn with
  | nil =>
      exact ⟨rfl, by simp [synthesized, along], by simp, by simp [perform, empty, completedKeys,
        completions, Table.keys], by simp [perform, empty, recordFor, completions, Table.get?]⟩
  | append_singleton history operation induction =>
      obtain ⟨earlier, admissible, -⟩ := (admitted_append empty history [operation]).mp admitted
      have sound := consistent_performed history consistent_empty earlier
      have told := induction earlier
      obtain ⟨added, grown, found, named⟩ := entries_applied sound admissible
      rw [perform_snoc]
      constructor
      case keys =>
        rw [discovered, along_snoc, ← found, ← discovered, ← told.keys, grown]
        exact List.map_append
      case synthesized =>
        intro name member
        rw [synthesized, along_snoc] at member
        rw [grown, Table.get_append]
        rcases List.mem_append.mp member with old | new
        · obtain ⟨entry, stored, same⟩ := told.synthesized name old
          exact ⟨entry, by simp [stored], same⟩
        · obtain ⟨entry, stored, same⟩ := named name new
          have fresh : (empty.perform history).entries.get? name = none := by
            have distinct := (sound.applied admissible).keysDistinct
            rw [grown, Table.keys, List.map_append] at distinct
            rw [Table.get_eq_none_iff]
            intro old
            exact (List.nodup_append.mp distinct).2.2 name old name
              (Table.mem_keys_of_mem added name entry (Table.mem_of_get _ _ _ stored)) rfl
          exact ⟨entry, by simp [fresh, stored], same⟩
      case seedsTaken =>
        intro key member
        rw [List.filterMap_append, List.mem_append] at member
        rcases member with old | new
        · exact taken_applied admissible key (Or.inl (told.seedsTaken key old))
        · exact taken_applied admissible key (Or.inr (by simpa using new))
      case processed =>
        intro key
        rcases completed_applied sound admissible with
          ⟨done, record, completed, -, processed, -⟩ | ⟨completed, processed, -⟩
        · rw [processed, List.mem_cons, told.processed]
          simp [completedKeys, completions, Table.keys, List.filterMap_append, completed, or_comm]
        · rw [processed, told.processed]
          simp [completedKeys, completions, List.filterMap_append, completed]
      case recorded =>
        intro key
        rcases completed_applied sound admissible with
          ⟨done, record, completed, unprocessed, -, stored⟩ | ⟨completed, -, stored⟩
        · have unrecorded : (completions history).get? done = none := by
            rw [Table.get_eq_none_iff]
            exact fun member => unprocessed ((told.processed done).mpr member)
          have extended : completions (history ++ [operation]) =
              completions history ++ [(done, record)] := by
            simp [completions, List.filterMap_append, completed]
          rw [extended, Table.get_append, recordFor, stored]
          by_cases same : key = done
          · subst same
            simp [Table.get_put_self, unrecorded, Table.get?]
          · rw [Table.get_put_of_ne _ _ _ _ same, ← told.recorded key]
            simp [Table.get?, Ne.symm same, recordFor]
        · have same : completions (history ++ [operation]) = completions history := by
            simp [completions, List.filterMap_append, completed]
          rw [same, recordFor, stored]
          exact told.recorded key

/-- The pending keys are those discovered and not completed, and the records are those completed,
both in the order of discovery. -/
theorem Chronicle.pending_keys {history : List Operation} (told : Chronicle history registry) :
    registry.pendingKeys = (discovered history).filter (· ∉ completedKeys history) := by
  rw [pendingKeys, told.keys]
  apply List.filter_congr
  intro key _
  simp [told.processed key]

theorem Chronicle.records {history : List Operation} (told : Chronicle history registry) :
    registry.records = (discovered history).filterMap (completions history).get? := by
  rw [Registry.records, told.keys]
  exact congrArg (List.filterMap · (discovered history)) (funext told.recorded)

/-- Whatever the history, the registry is consistent and its tables are the ones that the history
tells; and however the history goes on, no entry is replaced and no processed key becomes pending
again. -/
theorem registry_sound_along_history (history continuation : List Operation)
    (admitted : empty.Admitted (history ++ continuation)) :
    let registry := empty.perform history
    let later := empty.perform (history ++ continuation)
    registry.Consistent ∧ Chronicle history registry ∧
      registry.pendingKeys = (discovered history).filter (· ∉ completedKeys history) ∧
      registry.records = (discovered history).filterMap (completions history).get? ∧
      (∃ added : Table Entry, later.entries = registry.entries ++ added ∧
        added.keys = along Operation.discovers registry continuation) ∧
      ∀ key ∈ registry.processed, key ∉ later.pendingKeys := by
  intro registry later
  obtain ⟨earlier, continued⟩ := (admitted_append empty history continuation).mp admitted
  have sound := consistent_performed history consistent_empty earlier
  have told := chronicle_performed history earlier
  have toldLater := chronicle_performed (history ++ continuation) admitted
  refine ⟨sound, told, told.pending_keys, told.records, ?_, ?_⟩
  · have grown := entries_performed continuation sound continued
    rwa [← perform_append] at grown
  · intro key processed pending
    rw [toldLater.pending_keys, List.mem_filter] at pending
    have completed := (told.processed key).mp processed
    have kept : key ∈ completedKeys (history ++ continuation) := by
      simp only [completedKeys, completions, Table.keys, List.filterMap_append, List.map_append]
      exact List.mem_append_left _ completed
    simpa [kept] using pending.2

def cityShape : Schema := .object [("city", .primitive .string none)] []

def sharedShapeHistory : List Operation :=
  [.seed "Address" cityShape, .seed "Location" cityShape,
    .promote (some "location") (.object [("lat", .primitive .number none)] []) "point",
    .begin "Address", .complete "Address" ⟨"Address", [], "city", none⟩]

theorem registry_sound_along_shared_shape :
    empty.Admitted (sharedShapeHistory ++ [.seed "Options" (.object [] []), .begin "Location2"]) ∧
      (empty.perform sharedShapeHistory).Consistent ∧
      Chronicle sharedShapeHistory (empty.perform sharedShapeHistory) ∧
      (empty.perform sharedShapeHistory).pendingKeys = [("Location2" : Text)] := by
  have admitted : empty.Admitted
      (sharedShapeHistory ++ [.seed "Options" (.object [] []), .begin "Location2"]) := by
    simp only [sharedShapeHistory, List.cons_append, List.nil_append, Admitted,
      Operation.Admissible]
    decide +kernel
  obtain ⟨sound, told, pending, -⟩ := registry_sound_along_history _ _ admitted
  exact ⟨admitted, sound, told, pending.trans (by decide +kernel)⟩

end DtoForge.Registry
