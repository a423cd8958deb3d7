import DtoForge.Proofs.Resolution.Mirror

/-!
The passes of a run. Settling a key is what one turn of the inner loop does: begin, build the
record, complete. A turn never fails on a pending key, and it leaves the other pending keys
pending; so a property that every turn keeps holds at the end, where nothing is pending.
-/

namespace DtoForge.Resolution

open Registry

variable {context : Context}

/-- One turn of the loop, up to the completion of the key. -/
structure Settling (context : Context) (before : Registry) (key : Text) (entry : Entry)
    (record : Record) (worked : Registry) : Prop where
  pending : key ∈ before.pendingKeys
  stored : before.entries.get? key = some entry
  discovery : Discovery context entry (before.begin key).2 worked
  mirrors : Mirrors context worked entry record
  named : NamedByFields before worked record.fields
  built : ∃ notices, recordOf context entry (before.begin key).2 = (record, worked, notices)

theorem materialize_settles (context : Context) {before : Registry} {key : Text}
    (sound : Consistent before) (pending : key ∈ before.pendingKeys) :
    ∃ entry record worked notices,
      materialize context before key = .ok (worked.complete key record, notices) ∧
        Settling context before key entry record worked := by
  obtain ⟨entry, progress, stored, begun, -⟩ := begin_effect before key pending
  have soundBegun := sound.begun key pending
  rw [begun] at soundBegun
  have outcome := record_outcome context soundBegun entry
  generalize made : recordOf context entry { before with inProgress := progress } = result
    at outcome
  obtain ⟨record, worked, notices⟩ := result
  obtain ⟨discovery, mirrors, named⟩ := outcome
  refine ⟨entry, record, worked, notices, by simp only [materialize, begun, made], pending, stored,
    ?_, mirrors, named, ?_⟩
  · rw [begun]
    exact discovery
  · rw [begun]
    exact ⟨notices, made⟩

variable {before worked : Registry} {key : Text} {entry : Entry} {record : Record}

theorem Settling.progress (settling : Settling context before key entry record worked) :
    key ∈ worked.inProgress := by
  obtain ⟨_, progress, -, begun, members⟩ := begin_effect before key settling.pending
  rw [settling.discovery.in_progress, begun]
  exact (members key).mpr (Or.inl rfl)

theorem Settling.consistent (settling : Settling context before key entry record worked)
    (sound : Consistent before) : Consistent (worked.complete key record) :=
  (settling.discovery.consistent (sound.begun key settling.pending)).completed key record
    settling.progress

theorem Settling.grown (settling : Settling context before key entry record worked) :
    Grown before (worked.complete key record) := by
  obtain ⟨_, progress, -, begun, -⟩ := begin_effect before key settling.pending
  have grown := settling.discovery.grown
  rw [begun] at grown
  exact ⟨grown.entries, grown.declared, grown.canonical⟩

theorem Settling.processed (settling : Settling context before key entry record worked) :
    (worked.complete key record).processed = key :: before.processed := by
  obtain ⟨_, progress, -, begun, -⟩ := begin_effect before key settling.pending
  have kept : worked.processed = before.processed := by
    rw [settling.discovery.processed, begun]
  rw [complete_processed key record, kept]
  rw [kept]
  exact ((mem_pending_iff before key).mp settling.pending).2

theorem Settling.recorded (settling : Settling context before key entry record worked) :
    (worked.complete key record).recordsByKey = before.recordsByKey.put key record := by
  obtain ⟨_, progress, -, begun, -⟩ := begin_effect before key settling.pending
  simp only [complete, settling.discovery.recorded, begun]

theorem Settling.still_pending (settling : Settling context before key entry record worked)
    {other : Text} (pending : other ∈ before.pendingKeys) (differ : other ≠ key) :
    other ∈ (worked.complete key record).pendingKeys := by
  obtain ⟨owned, unprocessed⟩ := (mem_pending_iff before other).mp pending
  rw [mem_pending_iff, settling.processed, List.mem_cons, not_or]
  exact ⟨(settling.grown.entries.map _).subset owned, differ, unprocessed⟩

theorem materialize_all_keeps (context : Context) {holds : Registry → Prop}
    (sound : ∀ registry, holds registry → Consistent registry)
    (turn : ∀ before key entry record worked, holds before →
      Settling context before key entry record worked → holds (worked.complete key record))
    (keys : List Text) (registry : Registry) (start : holds registry) (distinct : keys.Nodup)
    (pending : ∀ key ∈ keys, key ∈ registry.pendingKeys) :
    ∃ after notices, materializeAll context keys registry = .ok (after, notices) ∧ holds after := by
  induction keys generalizing registry with
  | nil => exact ⟨registry, [], rfl, start⟩
  | cons key rest induction =>
      obtain ⟨absent, distinctRest⟩ := List.nodup_cons.mp distinct
      obtain ⟨entry, record, worked, noticed, first, settling⟩ :=
        materialize_settles context (sound registry start)
          (pending key List.mem_cons_self)
      obtain ⟨after, later, others, finish⟩ :=
        induction (worked.complete key record) (turn _ _ _ _ _ start settling) distinctRest (by
          intro other member
          refine settling.still_pending (pending other (List.mem_cons_of_mem _ member)) ?_
          rintro rfl
          exact absent member)
      exact ⟨after, noticed ++ later, by simp only [materializeAll, first, others], finish⟩

theorem pending_distinct {registry : Registry} (sound : Consistent registry) :
    registry.pendingKeys.Nodup :=
  sound.keysDistinct.filter _

theorem run_passes_keeps {holds : Registry → Prop}
    (sound : ∀ registry, holds registry → Consistent registry)
    (turn : ∀ before key entry record worked, holds before →
      Settling context before key entry record worked → holds (worked.complete key record))
    (passes : Nat) (registry : Registry) (start : holds registry) :
    ∃ total last notices, runPasses context passes registry = .ok (total, last, notices) ∧
      holds last ∧ last.pendingKeys = [] := by
  have pass (registry : Registry) (start : holds registry) :=
    materialize_all_keeps context sound turn registry.pendingKeys registry start
      (pending_distinct (sound registry start)) (fun _ member => member)
  fun_induction runPasses context passes registry with
  | case1 passes registry empty => exact ⟨passes, registry, [], rfl, start, empty⟩
  | case2 passes registry key rest pending fault worked =>
      obtain ⟨after, notices, finished, -⟩ := pass registry start
      rw [pending, worked] at finished
      cases finished
  | case3 passes registry key rest pending after notices worked fault failed induction =>
      obtain ⟨reached, _, finished, held⟩ := pass registry start
      rw [pending, worked] at finished
      cases finished
      obtain ⟨total, last, later, others, -⟩ := induction held
      rw [failed] at others
      cases others
  | case4 passes registry key rest pending after notices worked total last later ended induction =>
      obtain ⟨reached, _, finished, held⟩ := pass registry start
      rw [pending, worked] at finished
      cases finished
      obtain ⟨_, _, _, others, finish⟩ := induction held
      rw [ended] at others
      cases others
      exact ⟨_, _, _, rfl, finish⟩

end DtoForge.Resolution
