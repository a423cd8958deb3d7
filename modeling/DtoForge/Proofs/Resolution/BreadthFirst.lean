import DtoForge.Proofs.Resolution.Closure
import DtoForge.Proofs.Resolution.Points
import DtoForge.Proofs.Resolution.Queue

/-!
The order of the records. A field creates a record if the record is missing at its point of the run
and there at the next. The nested records stand in the order of the fields that created them, and
passes make the same of the definitions as a plain queue.
-/

namespace DtoForge.Resolution

open Registry

variable {context : Context} {registry before begun worked last start state : Registry} {key : Text}
  {keys rest : List Text} {entry : Entry} {record : Record} {notices : List Notice}
  {turn index turn' index' : Nat} {name : Text}

/-! ### The field that creates a record -/

/-- Resolving the field at some index in some turn registers a name. -/
def Creates (context : Context) (start : Registry) (keys : List Text) (turn index : Nat)
    (name : Text) : Prop :=
  ∃ before after, StandsAt context start keys turn index before ∧
    StandsAt context start keys turn (index + 1) after ∧
      name ∉ before.entries.keys ∧ name ∈ after.entries.keys

theorem Turns.record_kept (turns : Turns context registry keys last) (sound : Consistent registry)
    {owner : Text} (recorded : registry.recordFor owner = some record) :
    last.recordFor owner = some record := by
  have kept := turns.keeps
    (fun state => Consistent state ∧ state.recordFor owner = some record)
    (fun _ held => held.1)
    (fun _ _ _ _ _ _ held settling =>
      ⟨settling.consistent held.1, settling.record_kept held.1 held.2⟩)
    ⟨sound, recorded⟩
  exact kept.2

theorem created_at_index (missing : name ∉ begun.entries.keys) (count : Nat)
    (there : name ∈ (stage context entry begun count).entries.keys) :
    ∃ index < count, name ∉ (stage context entry begun index).entries.keys ∧
      name ∈ (stage context entry begun (index + 1)).entries.keys := by
  induction count with
  | zero => exact absurd there missing
  | succ count induction =>
      by_cases earlier : name ∈ (stage context entry begun count).entries.keys
      · obtain ⟨index, bound, created⟩ := induction earlier
        exact ⟨index, Nat.lt_succ_of_lt bound, created⟩
      · exact ⟨count, Nat.lt_succ_self count, earlier, there⟩

theorem created_field (sound : Consistent before) (begins : before.begin key = (.ok entry, begun))
    (builds : recordOf context entry begun = (record, worked, notices))
    (missing : name ∉ before.entries.keys) (there : name ∈ worked.entries.keys) :
    ∃ index field, name ∉ (stage context entry begun index).entries.keys ∧
      name ∈ (stage context entry begun (index + 1)).entries.keys ∧
        record.fields[index]? = some field ∧ field.type.recordName? = some name := by
  obtain ⟨kept, -, -⟩ := begun_consistent sound begins
  obtain ⟨-, -, same, -⟩ := begin_ok before begun key entry begins
  have full := record_registry context entry begun
  rw [builds] at full
  dsimp only at full
  rw [full] at there
  rw [← same] at missing
  obtain ⟨index, -, absent, present⟩ := created_at_index missing _ there
  rcases stage_step context entry kept index with
    unchanged | ⟨property, made, stands, registration, named⟩
  · rw [unchanged] at present
    exact absurd present absent
  · obtain ⟨field, found, type⟩ := record_field_type context entry begun stands
    rw [builds] at found
    refine ⟨index, field, absent, present, found, ?_⟩
    rw [type, registration.name_of_new absent present]
    exact named

theorem Turns.created (turns : Turns context start keys last) (sound : Consistent start)
    (missing : name ∉ start.entries.keys) (there : name ∈ last.entries.keys) :
    ∃ turn index owner record field, Creates context start keys turn index name ∧
      keys[turn]? = some owner ∧ last.recordFor owner = some record ∧
        record.fields[index]? = some field ∧ field.type.recordName? = some name := by
  induction turns with
  | none => exact absurd there missing
  | @turn before begun worked last key rest entry record notices begins builds others induction =>
      have settling := settling_of_turn sound begins builds
      by_cases now : name ∈ worked.entries.keys
      · obtain ⟨index, field, absent, present, found, named⟩ :=
          created_field sound begins builds missing now
        have recorded : (worked.complete key record).recordFor key = some record := by
          rw [recordFor, settling.recorded, Table.get_put_self]
        exact ⟨0, index, key, record, field,
          ⟨_, _, .now index begins, .now (index + 1) begins, absent, present⟩, rfl,
          others.record_kept (settling.consistent sound) recorded, found, named⟩
      · obtain ⟨turn, index, owner, built, field, created, place, found⟩ :=
          induction (settling.consistent sound) now there
        obtain ⟨first, second, stands, next, absent, present⟩ := created
        exact ⟨turn + 1, index, owner, built, field,
          ⟨first, second, .later begins builds stands, .later begins builds next, absent, present⟩,
          by simpa using place, found⟩

/-! ### The order of the records -/

theorem mem_front_iff {α : Type} {front whole : List α} (fits : front <+: whole)
    (distinct : whole.Nodup) {index : Nat} {value : α} (stands : whole[index]? = some value) :
    value ∈ front ↔ index < front.length := by
  obtain ⟨rest, rfl⟩ := fits
  constructor
  · intro held
    obtain ⟨place, found⟩ := List.mem_iff_getElem?.mp held
    have bound := (List.getElem?_eq_some_iff.mp found).1
    have again : (front ++ rest)[place]? = (front ++ rest)[index]? := by
      rw [List.getElem?_append_left bound, found, stands]
    have inside : place < (front ++ rest).length := by
      rw [List.length_append]
      omega
    have same := (List.getElem?_inj inside distinct).mp again
    omega
  · intro bound
    rw [List.getElem?_append_left bound] at stands
    exact List.mem_of_getElem? stands

theorem StandsAt.keys_within (turns : Turns context start keys last)
    (stands : StandsAt context start keys turn index state) (sound : Consistent start) :
    state.entries.keys <+: last.entries.keys :=
  (stands.within turns sound).map _

theorem created_before (turns : Turns context start keys last) (sound : Consistent start)
    {left right : Text} {i j : Nat} (leftAt : last.entries.keys[i]? = some left)
    (rightAt : last.entries.keys[j]? = some right)
    (leftCreated : Creates context start keys turn index left)
    (rightCreated : Creates context start keys turn' index' right)
    (order : turn < turn' ∨ turn = turn' ∧ index < index') : i < j := by
  obtain ⟨_, _, -, leftThere, -, leftHeld⟩ := leftCreated
  obtain ⟨rightFirst, _, rightHere, -, rightMissing, -⟩ := rightCreated
  have distinct := (turns.consistent sound).keysDistinct
  have held : left ∈ rightFirst.entries.keys :=
    ((leftThere.entries_prefix rightHere sound (by omega)).map _).subset leftHeld
  have front := rightHere.keys_within turns sound
  have leftBound := (mem_front_iff front distinct leftAt).mp held
  have rightBound := mt (mem_front_iff front distinct rightAt).mpr rightMissing
  omega

theorem created_same (sound : Consistent start) {left right : Text}
    (leftCreated : Creates context start keys turn index left)
    (rightCreated : Creates context start keys turn index right) : left = right := by
  obtain ⟨first, next, here, there, leftMissing, leftHeld⟩ := leftCreated
  obtain ⟨_, _, hereToo, thereToo, rightMissing, rightHeld⟩ := rightCreated
  cases here.unique hereToo
  cases there.unique thereToo
  obtain ⟨_, _, _, -, -, -, registration⟩ := here.registers there sound leftMissing leftHeld
  exact (registration.name_of_new rightMissing rightHeld).symm

theorem created_order (turns : Turns context start keys last) (sound : Consistent start)
    {left right : Text} {i j : Nat} (leftAt : last.entries.keys[i]? = some left)
    (rightAt : last.entries.keys[j]? = some right)
    (leftCreated : Creates context start keys turn index left)
    (rightCreated : Creates context start keys turn' index' right) :
    i < j ↔ turn < turn' ∨ turn = turn' ∧ index < index' := by
  constructor
  · intro before
    by_contra notBefore
    rcases (by omega : (turn' < turn ∨ turn' = turn ∧ index' < index) ∨
        turn' = turn ∧ index' = index) with after | ⟨rfl, rfl⟩
    · have reversed := created_before turns sound rightAt leftAt rightCreated leftCreated after
      omega
    · cases created_same sound leftCreated rightCreated
      have inside := (List.getElem?_eq_some_iff.mp leftAt).1
      have same := (List.getElem?_inj inside (turns.consistent sound).keysDistinct).mp
        (leftAt.trans rightAt.symm)
      omega
  · exact created_before turns sound leftAt rightAt leftCreated rightCreated

/-- The order of the records of a graph: every nested record has the field that created it, and the
records of two created names stand in the order of these fields, by record and then by field. -/
structure BreadthFirst (context : Context) (definitions : Definitions) (registry : Registry)
    (graph : TypeGraph) : Prop where
  created : ∀ (position : Nat) (record : Record), graph.records[position]? = some record →
    ¬ DeclaredRecord definitions registry record → ∃ turn index parent field,
      Creates context (seeds definitions) registry.entries.keys turn index record.name ∧
        turn < position ∧ graph.records[turn]? = some parent ∧
          parent.fields[index]? = some field ∧ field.type.recordName? = some record.name
  ordered : ∀ (i j : Nat) (left right : Record) (turn index turn' index' : Nat),
    graph.records[i]? = some left → graph.records[j]? = some right →
      Creates context (seeds definitions) registry.entries.keys turn index left.name →
      Creates context (seeds definitions) registry.entries.keys turn' index' right.name →
        (i < j ↔ turn < turn' ∨ turn = turn' ∧ index < index')

variable {definitions : Definitions} {graph : TypeGraph}

theorem Finished.created_place (finished : Finished context definitions graph registry)
    (turns : Turns context (seeds definitions) registry.entries.keys registry) {position : Nat}
    (stored : graph.records[position]? = some record)
    (created : Creates context (seeds definitions) registry.entries.keys turn index record.name) :
    registry.entries.keys[position]? = some record.name := by
  have sound := (seeded_seeds definitions finished.distinct).consistent
  obtain ⟨pair, place, recorded⟩ := finished.entry_at stored
  have mirrors := finished.mirrors (List.mem_of_getElem? place) recorded
  obtain ⟨_, _, here, there, missing, held⟩ := created
  have owned := (there.keys_within turns sound).subset held
  have unseeded : record.name ∉ (seeds definitions).entries.keys :=
    fun seeded => missing (((here.started sound).1.entries.map _).subset seeded)
  obtain ⟨owner, ownerHeld, named⟩ := List.mem_map.mp owned
  have typeName := (finished.coherent.grounded.synthesized ownerHeld
    fun seeded => unseeded (named ▸ List.mem_map_of_mem seeded)).named
  have same : owner = pair := List.inj_on_of_nodup_map
    finished.coherent.grounded.consistent.namesDistinct ownerHeld (List.mem_of_getElem? place)
    (typeName.trans (named.trans mirrors.name))
  rw [Table.keys, List.getElem?_map, place, ← same]
  exact congrArg some named

theorem Finished.created_of_new (finished : Finished context definitions graph registry)
    (turns : Turns context (seeds definitions) registry.entries.keys registry)
    {pair : Text × Entry} (held : pair ∈ registry.entries)
    (new : pair ∉ (seeds definitions).entries) : ∃ turn index owner parent field,
      Creates context (seeds definitions) registry.entries.keys turn index pair.1 ∧
        registry.entries[turn]? = some owner ∧ registry.recordFor owner.1 = some parent ∧
          parent.fields[index]? = some field ∧ field.type.recordName? = some pair.1 := by
  have sound := (seeded_seeds definitions finished.distinct).consistent
  have missing :=
    sound.unowned_of_fresh (finished.coherent.grounded.synthesized held new).fresh
  obtain ⟨turn, index, key, parent, field, created, keyAt, recorded, found, refers⟩ :=
    turns.created sound missing (List.mem_map_of_mem held)
  rw [Table.keys, List.getElem?_map] at keyAt
  obtain ⟨owner, place, rfl⟩ := Option.map_eq_some_iff.mp keyAt
  exact ⟨turn, index, owner, parent, field, created, place, recorded, found, refers⟩

theorem Finished.created_by_field (finished : Finished context definitions graph registry)
    (turns : Turns context (seeds definitions) registry.entries.keys registry) (position : Nat)
    (record : Record) (stored : graph.records[position]? = some record)
    (nested : ¬ DeclaredRecord definitions registry record) : ∃ turn index parent field,
      Creates context (seeds definitions) registry.entries.keys turn index record.name ∧
        turn < position ∧ graph.records[turn]? = some parent ∧
          parent.fields[index]? = some field ∧ field.type.recordName? = some record.name := by
  have sound := (seeded_seeds definitions finished.distinct).consistent
  have distinct := finished.coherent.grounded.consistent.keysDistinct
  obtain ⟨pair, place, recorded⟩ := finished.entry_at stored
  have held := List.mem_of_getElem? place
  have new : pair ∉ (seeds definitions).entries := fun seeded =>
    nested (seeded_declared_record finished.distinct seeded recorded)
  have named : pair.1 = record.name :=
    (finished.coherent.grounded.synthesized held new).named.symm.trans
      (finished.mirrors held recorded).name.symm
  obtain ⟨turn, index, owner, parent, field, created, ownerPlace, ownerRecorded, found, refers⟩ :=
    finished.created_of_new turns held new
  rw [named] at created refers
  have standsAt := finished.created_place turns stored created
  obtain ⟨built, builtAt, builtRecorded⟩ := finished.record_at ownerPlace
  rw [ownerRecorded] at builtRecorded
  cases builtRecorded
  refine ⟨turn, index, parent, field, created, ?_, builtAt, found, refers⟩
  obtain ⟨_, _, here, -, absent, -⟩ := created
  obtain ⟨-, -, starter, starterAt, starterHeld⟩ := here.started sound
  have front := here.keys_within turns sound
  have turnBound := (mem_front_iff front distinct starterAt).mp starterHeld
  have positionBound := mt (mem_front_iff front distinct standsAt).mpr absent
  omega

theorem Finished.breadth_first (finished : Finished context definitions graph registry)
    (turns : Turns context (seeds definitions) registry.entries.keys registry) :
    BreadthFirst context definitions registry graph where
  created := finished.created_by_field turns
  ordered := by
    intro i j left right turn index turn' index' leftStored rightStored leftCreated rightCreated
    exact created_order turns (seeded_seeds definitions finished.distinct).consistent
      (finished.created_place turns leftStored leftCreated)
      (finished.created_place turns rightStored rightCreated) leftCreated rightCreated

/-- Passes and queue leave the same registry and the same records; the turns of both follow the
order of discovery, and the records stand breadth-first. -/
theorem passes_refine_queue (context : Context) (definitions : Definitions)
    (distinct : definitions.keys.Nodup) :
    ∃ graph registry notices,
      resolveGraph context definitions Registry.empty = .ok (graph, registry, notices) ∧
        Turns context (seeds definitions) registry.entries.keys registry ∧
          queueGraph context definitions Registry.empty =
              .ok (graph.records, registry.entries.keys, registry) ∧
            BreadthFirst context definitions registry graph := by
  obtain ⟨graph, registry, notices, resolved, finished⟩ :=
    resolve_graph_finishes context definitions distinct
  obtain ⟨batches, passes, order, -⟩ := passes_of_resolved distinct resolved
  have turns := passes.turns
  have drained := passes.drained (seeded_seeds definitions distinct).consistent
  rw [order] at turns drained
  refine ⟨graph, registry, notices, resolved, turns, ?_, finished.breadth_first turns⟩
  rw [seeds] at drained
  rw [queueGraph, drained, finished.records]
  rfl

theorem trips_refine_queue :
    tripSchemas.keys.Nodup ∧ ∃ graph registry notices,
      resolveGraph ⟨.inline, 2⟩ tripSchemas Registry.empty = .ok (graph, registry, notices) ∧
        Turns ⟨.inline, 2⟩ (seeds tripSchemas) registry.entries.keys registry ∧
          queueGraph ⟨.inline, 2⟩ tripSchemas Registry.empty =
              .ok (graph.records, registry.entries.keys, registry) ∧
            BreadthFirst ⟨.inline, 2⟩ tripSchemas registry graph :=
  ⟨by decide, passes_refine_queue ⟨.inline, 2⟩ tripSchemas (by decide)⟩

end DtoForge.Resolution
