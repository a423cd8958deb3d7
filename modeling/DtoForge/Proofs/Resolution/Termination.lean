import DtoForge.Proofs.Resolution.Coherence
import DtoForge.Proofs.Resolution.Turns
import DtoForge.Proofs.Schema.Depth
import Mathlib.Data.List.Dedup

/-!
How many passes a run makes. What is pending in a pass was discovered in the pass before, in the
record of a deeper object, so a late pass has a long line of entries of descending depth above it.
Such a line is no longer than the depth of the definitions, and its signatures all differ: the two
policies need no separate measure.
-/

namespace DtoForge.Resolution

open Registry

/-- An entry below as many other entries as the level says, each deeper than the next. -/
inductive Descent (registry : Registry) : Nat → Entry → Prop
  | top {key : Text} {entry : Entry} (held : (key, entry) ∈ registry.entries) :
      Descent registry 0 entry
  | under {level : Nat} {parent : Entry} {key : Text} {entry : Entry}
      (above : Descent registry level parent) (held : (key, entry) ∈ registry.entries)
      (deeper : entry.schema.depth < parent.schema.depth) : Descent registry (level + 1) entry

def PendingAt (level : Nat) (registry : Registry) : Prop :=
  ∀ key entry, (key, entry) ∈ registry.entries → key ∉ registry.processed →
    Descent registry level entry

variable {context : Context} {registry before after worked middle last : Registry} {key : Text}
  {batch : List Text} {batches : List (List Text)} {entry : Entry} {record : Record}
  {level : Nat}

theorem Descent.mono (grown : before.entries <+: after.entries)
    (descent : Descent before level entry) : Descent after level entry := by
  induction descent with
  | top held => exact .top (grown.subset held)
  | under _ held deeper induction => exact .under induction (grown.subset held) deeper

/-! ### One pass goes one level down -/

theorem Settling.discovered_deeper (settling : Settling context before key entry record worked) :
    ∀ pair ∈ (worked.complete key record).entries, pair ∈ before.entries ∨
      pair.2.schema.depth < entry.schema.depth := by
  obtain ⟨_, progress, -, begun, -⟩ := begin_effect before key settling.pending
  refine settling.discovery.keeps
    (fun state => ∀ pair ∈ state.entries, pair ∈ before.entries ∨
      pair.2.schema.depth < entry.schema.depth) ?_ ?_
  · intro property name first second member registration held pair stored
    rw [registration.entries] at stored
    rcases List.mem_append.mp stored with old | new
    · exact held pair old
    · rw [List.mem_singleton.mp new]
      exact Or.inr (Schema.core_depth_lt member registration.shaped)
  · rw [begun]
    exact fun pair stored => Or.inl stored

/-- In the middle of a pass: its own keys are at the level of the pass, and all other pending keys
are one below. -/
structure Deepening (batch : List Text) (level : Nat) (registry : Registry) : Prop where
  consistent : Consistent registry
  owned : batch ⊆ registry.entries.keys
  levels : ∀ key entry, (key, entry) ∈ registry.entries → key ∉ registry.processed →
    Descent registry (if key ∈ batch then level else level + 1) entry

theorem deepening_start (sound : Consistent registry) (pending : registry.pendingKeys = batch)
    (start : PendingAt level registry) : Deepening batch level registry where
  consistent := sound
  owned := fun key member => ((mem_pending_iff registry key).mp (pending ▸ member)).1
  levels := by
    intro key entry held unprocessed
    have member : key ∈ batch := by
      rw [← pending]
      exact (mem_pending_iff registry key).mpr ⟨Table.mem_keys_of_mem _ _ _ held, unprocessed⟩
    rw [if_pos member]
    exact start key entry held unprocessed

/-- A key that a turn of the pass discovers is no key of the pass, and its entry is less deep. -/
theorem Settling.deepening (settling : Settling context before key entry record worked)
    (member : key ∈ batch) (held : Deepening batch level before) :
    Deepening batch level (worked.complete key record) := by
  have sound := settling.consistent held.consistent
  have grown := settling.grown.entries
  have above := held.levels key entry (Table.mem_of_get _ _ _ settling.stored)
    ((mem_pending_iff before key).mp settling.pending).2
  rw [if_pos member] at above
  refine ⟨sound, List.Subset.trans held.owned (grown.map _).subset, ?_⟩
  intro other owner stored unprocessed
  rw [settling.processed, List.mem_cons, not_or] at unprocessed
  by_cases old : (other, owner) ∈ before.entries
  · exact (held.levels other owner old unprocessed.2).mono grown
  · have deeper := (settling.discovered_deeper (other, owner) stored).resolve_left old
    have foreign : other ∉ batch := by
      intro listed
      obtain ⟨pair, pairHeld, same⟩ := List.mem_map.mp (held.owned listed)
      have equal := List.inj_on_of_nodup_map sound.keysDistinct (grown.subset pairHeld) stored same
      exact old (equal ▸ pairHeld)
    rw [if_neg foreign]
    exact .under (above.mono grown) stored deeper

theorem Turns.deepen (turns : Turns context registry batch middle) (sound : Consistent registry)
    (pending : registry.pendingKeys = batch) (start : PendingAt level registry) :
    PendingAt (level + 1) middle := by
  have begun := deepening_start sound pending start
  have ended : Deepening batch level middle :=
    turns.keeps (Deepening batch level) (fun _ held => held.consistent)
      (fun _ _ _ _ _ member held settling => settling.deepening member held) begun
  obtain ⟨new, keys, left⟩ := turns.discover sound (pending.trans (List.append_nil _).symm)
  have distinct := ended.consistent.keysDistinct
  rw [keys] at distinct
  intro key entry held unprocessed
  have waiting := (mem_pending_iff middle key).mpr
    ⟨Table.mem_keys_of_mem _ _ _ held, unprocessed⟩
  rw [left, List.nil_append] at waiting
  have foreign : key ∉ batch := fun member =>
    (List.nodup_append.mp distinct).2.2 key (begun.owned member) key waiting rfl
  have descent := ended.levels key entry held unprocessed
  rwa [if_neg foreign] at descent

theorem Passes.descend (passes : Passes context registry batches last) (sound : Consistent registry)
    (start : PendingAt level registry) (index : Nat) (bound : index < batches.length) :
    ∃ entry, Descent last (level + index) entry := by
  induction passes generalizing level index with
  | settled => cases bound
  | @pass registry middle last batch batches pending some turns others induction =>
      have soundMiddle := turns.consistent sound
      cases index with
      | zero =>
          obtain ⟨key, member⟩ := List.exists_mem_of_ne_nil batch some
          rw [← pending] at member
          obtain ⟨owned, unprocessed⟩ := (mem_pending_iff registry key).mp member
          obtain ⟨⟨_, entry⟩, held, rfl⟩ := List.mem_map.mp owned
          have grown := (turns.grown sound).trans (others.turns.grown soundMiddle)
          exact ⟨entry, (start _ entry held unprocessed).mono grown.entries⟩
      | succ index =>
          have next := induction soundMiddle (turns.deepen sound pending start) index
            (Nat.lt_of_succ_lt_succ bound)
          rwa [Nat.add_assoc, Nat.add_comm 1 index] at next

/-! ### How long a line can be -/

theorem Descent.bounded {bound : Nat}
    (each : ∀ pair ∈ registry.entries, pair.2.schema.depth ≤ bound)
    (descent : Descent registry level entry) : level + entry.schema.depth ≤ bound := by
  induction descent with
  | top held =>
      rw [Nat.zero_add]
      exact each _ held
  | under _ _ deeper induction => omega

/-- The entries of a line, the last one first: their depths all differ. -/
theorem Descent.chain (descent : Descent registry level entry) :
    ∃ chain : List Entry, chain.length = level + 1 ∧
      (∀ other ∈ chain, other ∈ registry.entries.map (·.2) ∧
        entry.schema.depth ≤ other.schema.depth) ∧
          (chain.map (·.schema.depth)).Nodup := by
  induction descent with
  | @top key entry held =>
      refine ⟨[entry], rfl, ?_, List.nodup_singleton _⟩
      intro other member
      rw [List.mem_singleton.mp member]
      exact ⟨List.mem_map_of_mem held, Nat.le_refl _⟩
  | @under level parent key entry _ held deeper induction =>
      obtain ⟨chain, length, members, distinct⟩ := induction
      refine ⟨entry :: chain, by rw [List.length_cons, length], ?_, ?_⟩
      · refine List.forall_mem_cons.mpr ⟨⟨List.mem_map_of_mem held, Nat.le_refl _⟩, ?_⟩
        intro other member
        obtain ⟨stored, above⟩ := members other member
        exact ⟨stored, by omega⟩
      · refine List.nodup_cons.mpr ⟨?_, distinct⟩
        intro repeated
        obtain ⟨other, member, same⟩ := List.mem_map.mp repeated
        have above := (members other member).2
        have same : other.schema.depth = entry.schema.depth := same
        omega

variable {definitions : Definitions} {graph : TypeGraph}

theorem Passes.bounded (passes : Passes context (seeds definitions) batches last)
    (distinct : definitions.keys.Nodup) {bound : Nat}
    (lines : ∀ level entry, Descent last level entry → level < bound) : batches.length ≤ bound := by
  have sound := (seeded_seeds definitions distinct).consistent
  have start : PendingAt 0 (seeds definitions) := fun _ _ held _ => .top held
  by_contra more
  obtain ⟨entry, descent⟩ := passes.descend sound start bound (Nat.lt_of_not_le more)
  rw [Nat.zero_add] at descent
  exact Nat.lt_irrefl bound (lines bound entry descent)

theorem Reached.depth_le {node : Schema} (reached : Reached definitions node) :
    node.depth ≤ definitions.depth := by
  obtain ⟨pair, declared, within, shaped⟩ := reached
  refine Nat.le_trans ?_ (depth_le_definitions declared)
  by_cases bearing : node.hasProperties = true
  · rw [Schema.depth_eq, if_pos bearing, Schema.depth_eq, if_pos (shaped bearing)]
    exact within.nesting_le
  · rw [Schema.depth_eq node, if_neg bearing]
    exact pair.2.depth_pos

theorem Finished.line_lt_depth (finished : Finished context definitions graph registry)
    (descent : Descent registry level entry) : level < definitions.depth := by
  have bounded := descent.bounded
    fun pair held => (finished.coherent.grounded.origin pair held).2.depth_le
  have positive := entry.schema.depth_pos
  omega

theorem Finished.line_lt_records (finished : Finished context definitions graph registry)
    (descent : Descent registry level entry) : level < graph.records.length := by
  obtain ⟨chain, length, members, distinct⟩ := descent.chain
  have within : chain ⊆ registry.entries.map (·.2) := fun other member => (members other member).1
  have counted := (List.subperm_of_subset (distinct.of_map _) within).length_le
  have records := congrArg List.length finished.names
  simp only [TypeGraph.names, List.length_map] at records counted
  omega

theorem Finished.line_lt_signatures (finished : Finished context definitions graph registry)
    (free : Schema.CollisionFree definitions.Node) (descent : Descent registry level entry) :
    level < (graph.records.map (·.signature)).dedup.length := by
  obtain ⟨chain, length, members, distinct⟩ := descent.chain
  have stored (other : Entry) (member : other ∈ chain) :
      ∃ key, (key, other) ∈ registry.entries := by
    obtain ⟨⟨key, _⟩, held, rfl⟩ := List.mem_map.mp (members other member).1
    exact ⟨key, held⟩
  have signatures : (chain.map (·.signature)).Nodup := by
    refine (distinct.of_map _).map_on ?_
    intro left leftMember right rightMember same
    obtain ⟨leftKey, leftHeld⟩ := stored left leftMember
    obtain ⟨rightKey, rightHeld⟩ := stored right rightMember
    obtain ⟨leftSigned, leftReached⟩ := finished.coherent.grounded.origin _ leftHeld
    obtain ⟨rightSigned, rightReached⟩ := finished.coherent.grounded.origin _ rightHeld
    have depths := Schema.depth_of_signature free leftReached.node rightReached.node
      (leftSigned.symm.trans (same.trans rightSigned))
    exact List.inj_on_of_nodup_map distinct leftMember rightMember depths
  have within : chain.map (·.signature) ⊆ (graph.records.map (·.signature)).dedup := by
    intro signature member
    obtain ⟨other, held, rfl⟩ := List.mem_map.mp member
    obtain ⟨key, kept⟩ := stored other held
    obtain ⟨record, built, -, mirrors⟩ := finished.record_of_entry kept
    exact List.mem_dedup.mpr (List.mem_map.mpr ⟨record, built, mirrors.signature⟩)
  have counted := (List.subperm_of_subset signatures within).length_le
  rw [List.length_map] at counted
  omega

/-! ### A whole run -/

/-- A run that ended: every entry had one turn, which began and completed it, nothing is left, and
the passes are few. -/
structure BoundedRun (context : Context) (definitions : Definitions) (registry : Registry)
    (graph : TypeGraph) : Prop where
  turns : Turns context (seeds definitions) registry.entries.keys registry
  once : registry.entries.keys.Nodup
  told : ∃ batches, Passes context (seeds definitions) batches registry ∧
    batches.flatten = registry.entries.keys ∧ graph.passes = batches.length
  settled : registry.pendingKeys = []
  idle : registry.inProgress = []
  byRecords : graph.passes ≤ graph.records.length
  byDepth : graph.passes ≤ definitions.depth
  bySignatures : Schema.CollisionFree definitions.Node →
    graph.passes ≤ (graph.records.map (·.signature)).dedup.length

theorem idle_of_settled (sound : Consistent registry) (settled : registry.pendingKeys = []) :
    registry.inProgress = [] := by
  apply List.eq_nil_iff_forall_not_mem.mpr
  intro key begun
  have pending := (mem_pending_iff registry key).mpr (sound.progressPending key begun)
  rw [settled] at pending
  cases pending

theorem run_bounded (context : Context) (definitions : Definitions)
    (distinct : definitions.keys.Nodup) :
    ∃ graph registry notices,
      resolveGraph context definitions Registry.empty = .ok (graph, registry, notices) ∧
        BoundedRun context definitions registry graph := by
  obtain ⟨graph, registry, notices, resolved, finished⟩ :=
    resolve_graph_finishes context definitions distinct
  obtain ⟨batches, passes, order, counted⟩ := passes_of_resolved distinct resolved
  have sound := finished.coherent.grounded.consistent
  refine ⟨graph, registry, notices, resolved, ?_⟩
  constructor
  case turns => exact order ▸ passes.turns
  case once => exact sound.keysDistinct
  case told => exact ⟨batches, passes, order, counted⟩
  case settled => exact finished.settled
  case idle => exact idle_of_settled sound finished.settled
  case byRecords =>
    rw [counted]
    exact passes.bounded distinct fun _ _ descent => finished.line_lt_records descent
  case byDepth =>
    rw [counted]
    exact passes.bounded distinct fun _ _ descent => finished.line_lt_depth descent
  case bySignatures =>
    intro free
    rw [counted]
    exact passes.bounded distinct fun _ _ descent => finished.line_lt_signatures free descent

theorem trips_run_bounded :
    tripSchemas.keys.Nodup ∧ Schema.CollisionFree tripSchemas.Node ∧
      ∃ graph registry notices,
        resolveGraph ⟨.inline, 2⟩ tripSchemas Registry.empty = .ok (graph, registry, notices) ∧
          BoundedRun ⟨.inline, 2⟩ tripSchemas registry graph ∧
            graph.passes ≤ (graph.records.map (·.signature)).dedup.length := by
  have distinct : tripSchemas.keys.Nodup := by decide
  obtain ⟨graph, registry, notices, resolved, bounded⟩ :=
    run_bounded ⟨.inline, 2⟩ tripSchemas distinct
  exact ⟨distinct, trip_schemas_collision_free, graph, registry, notices, resolved, bounded,
    bounded.bySignatures trip_schemas_collision_free⟩

end DtoForge.Resolution
