import DtoForge.Proofs.Resolution.Run
import DtoForge.Proofs.Resolution.Seeding

/-!
A run told turn by turn. A turn begins a key, builds its record and completes the key; a pass has
the turns of the keys that are pending at its start. A turn takes its key from the front of the
pending keys and puts the keys that it discovers behind them, so passes and all follow the order of
the entries. That a run is told so says nothing yet about what the records hold.
-/

namespace DtoForge.Resolution

open Registry

/-- Turns over some keys, one after the other. None of them fails to begin. -/
inductive Turns (context : Context) : Registry → List Text → Registry → Prop
  | none (registry : Registry) : Turns context registry [] registry
  | turn {before begun worked last : Registry} {key : Text} {rest : List Text} {entry : Entry}
      {record : Record} {notices : List Notice}
      (begins : before.begin key = (.ok entry, begun))
      (builds : recordOf context entry begun = (record, worked, notices))
      (others : Turns context (worked.complete key record) rest last) :
      Turns context before (key :: rest) last

/-- Passes until nothing is pending, each given by its keys. -/
inductive Passes (context : Context) : Registry → List (List Text) → Registry → Prop
  | settled {registry : Registry} (done : registry.pendingKeys = []) :
      Passes context registry [] registry
  | pass {registry middle last : Registry} {batch : List Text} {batches : List (List Text)}
      (pending : registry.pendingKeys = batch) (some : batch ≠ [])
      (turns : Turns context registry batch middle)
      (others : Passes context middle batches last) :
      Passes context registry (batch :: batches) last

variable {context : Context} {registry middle last : Registry} {keys batch : List Text}
  {batches : List (List Text)}

theorem turns_of_materialize_all {notices : List Notice}
    (worked : materializeAll context keys registry = .ok (last, notices)) :
    Turns context registry keys last := by
  induction keys generalizing registry notices with
  | nil =>
      cases worked
      exact .none _
  | cons key rest induction =>
      simp only [materializeAll] at worked
      split at worked
      · cases worked
      rename_i middle noticed first
      split at worked
      · cases worked
      rename_i reached later others
      cases worked
      unfold materialize at first
      split at first
      · cases first
      rename_i entry begun begins
      cases first
      exact .turn begins rfl (induction others)

/-- A run that ends without a fault has been told in passes, as many as it counts. -/
theorem passes_of_run {passes total : Nat} {notices : List Notice}
    (ended : runPasses context passes registry = .ok (total, last, notices)) :
    ∃ batches, Passes context registry batches last ∧ total = passes + batches.length := by
  fun_induction runPasses context passes registry generalizing total last notices with
  | case1 passes registry none =>
      cases ended
      exact ⟨[], .settled none, rfl⟩
  | case2 => cases ended
  | case3 => cases ended
  | case4 passes registry key rest pending after _ worked total last later finished induction =>
      cases ended
      obtain ⟨batches, others, counted⟩ := induction finished
      refine ⟨(key :: rest) :: batches,
        .pass pending (List.cons_ne_nil _ _) (turns_of_materialize_all worked) others, ?_⟩
      rw [counted, List.length_cons]
      omega

theorem Turns.append {more : List Text} (first : Turns context registry keys middle)
    (second : Turns context middle more last) : Turns context registry (keys ++ more) last := by
  induction first with
  | none => exact second
  | turn begins builds _ induction => exact .turn begins builds (induction second)

theorem Passes.turns (passes : Passes context registry batches last) :
    Turns context registry batches.flatten last := by
  induction passes with
  | settled => exact .none _
  | pass _ _ turns _ induction => exact turns.append induction

/-! ### What a turn keeps -/

variable {before begun worked : Registry} {key : Text} {entry : Entry} {record : Record}
  {notices : List Notice}

theorem settling_of_turn (sound : Consistent before)
    (begins : before.begin key = (.ok entry, begun))
    (builds : recordOf context entry begun = (record, worked, notices)) :
    Settling context before key entry record worked := by
  obtain ⟨unprocessed, stored, -⟩ := begin_ok before begun key entry begins
  have owned := Table.mem_keys_of_mem _ _ _ (Table.mem_of_get _ _ _ stored)
  have pending := (mem_pending_iff before key).mpr ⟨owned, by simpa using unprocessed⟩
  have state : (before.begin key).2 = begun := congrArg Prod.snd begins
  have outcome := record_outcome context (sound.begun key pending) entry
  rw [state, builds] at outcome
  obtain ⟨discovery, mirrors, named⟩ := outcome
  obtain ⟨_, progress, -, marked, -⟩ := begin_effect before key pending
  rw [marked] at state
  refine ⟨pending, stored, ?_, mirrors, ?_, notices, ?_⟩
  · rw [marked, state]
    exact discovery
  · rw [← state] at named
    exact named
  · rw [marked, state]
    exact builds

theorem Turns.keeps (turns : Turns context registry keys last) (holds : Registry → Prop)
    (sound : ∀ state, holds state → Consistent state)
    (turn : ∀ before key entry record worked, key ∈ keys → holds before →
      Settling context before key entry record worked → holds (worked.complete key record))
    (start : holds registry) : holds last := by
  induction turns with
  | none => exact start
  | turn begins builds _ induction =>
      have settling := settling_of_turn (sound _ start) begins builds
      exact induction
        (fun _ _ _ _ _ member => turn _ _ _ _ _ (List.mem_cons_of_mem _ member))
        (turn _ _ _ _ _ List.mem_cons_self start settling)

theorem Turns.consistent (turns : Turns context registry keys last) (sound : Consistent registry) :
    Consistent last :=
  turns.keeps Consistent (fun _ sound => sound)
    (fun _ _ _ _ _ _ sound settling => settling.consistent sound) sound

theorem Turns.grown (turns : Turns context registry keys last) (sound : Consistent registry) :
    Grown registry last := by
  have kept := turns.keeps (fun state => Consistent state ∧ Grown registry state)
    (fun _ held => held.1)
    (fun _ _ _ _ _ _ held settling =>
      ⟨settling.consistent held.1, held.2.trans settling.grown⟩)
    ⟨sound, Grown.refl registry⟩
  exact kept.2

/-! ### The order of the turns -/

theorem Settling.discovers (settling : Settling context before key entry record worked)
    (sound : Consistent before) {rest : List Text} (first : before.pendingKeys = key :: rest) :
    ∃ new, (worked.complete key record).entries.keys = before.entries.keys ++ new ∧
      (worked.complete key record).pendingKeys = rest ++ new := by
  obtain ⟨added, entries⟩ := settling.grown.entries
  have keys : (worked.complete key record).entries.keys =
      before.entries.keys ++ Table.keys added := by
    rw [← entries, Table.keys, List.map_append]
    rfl
  have distinct := (settling.consistent sound).keysDistinct
  rw [keys] at distinct
  have apart := (List.nodup_append.mp distinct).2.2
  have others : key ∉ rest := by
    have pendingDistinct := pending_distinct sound
    rw [first] at pendingDistinct
    exact (List.nodup_cons.mp pendingDistinct).1
  have owned : key ∈ before.entries.keys := ((mem_pending_iff before key).mp settling.pending).1
  have left : before.entries.keys.filter (fun other => !(key :: before.processed).contains other) =
      rest := by
    have narrowed : (before.pendingKeys.filter (· ≠ key)) = rest := by
      rw [first, List.filter_cons_of_neg (by simp), List.filter_eq_self]
      intro other member
      have differ : other ≠ key := fun same => others (same ▸ member)
      simpa using differ
    rw [← narrowed, pendingKeys, List.filter_filter]
    apply List.filter_congr
    intro other _
    by_cases same : other = key <;> simp [same]
  have new : (Table.keys added).filter (fun other => !(key :: before.processed).contains other) =
      Table.keys added := by
    apply List.filter_eq_self.mpr
    intro other member
    have differ : other ≠ key := fun same => apart key owned other member same.symm
    have unprocessed : other ∉ before.processed :=
      fun processed => apart other (sound.processedOwned other processed) other member rfl
    simp [differ, unprocessed]
  refine ⟨Table.keys added, keys, ?_⟩
  rw [pendingKeys, settling.processed, keys, List.filter_append, left, new]

theorem Turns.discover (turns : Turns context registry batch middle) (sound : Consistent registry)
    {others : List Text} (first : registry.pendingKeys = batch ++ others) :
    ∃ new, middle.entries.keys = registry.entries.keys ++ new ∧
      middle.pendingKeys = others ++ new := by
  induction turns generalizing others with
  | none => exact ⟨[], by simp, by simpa using first⟩
  | turn begins builds _ induction =>
      have settling := settling_of_turn sound begins builds
      obtain ⟨new, keys, pending⟩ := settling.discovers sound first
      obtain ⟨later, grown, left⟩ := induction (settling.consistent sound)
        (pending.trans (List.append_assoc _ _ _))
      exact ⟨new ++ later, by rw [grown, keys, List.append_assoc],
        by rw [left, List.append_assoc]⟩

theorem Passes.in_order (passes : Passes context registry batches last)
    (sound : Consistent registry)
    {done : List Text} (order : registry.entries.keys = done ++ registry.pendingKeys) :
    last.entries.keys = done ++ batches.flatten := by
  induction passes generalizing done with
  | settled none =>
      rw [order, none]
      rfl
  | @pass registry middle last batch batches pending some turns _ induction =>
      obtain ⟨new, keys, left⟩ := turns.discover sound (pending.trans (List.append_nil _).symm)
      have ordered : middle.entries.keys = (done ++ batch) ++ middle.pendingKeys := by
        rw [keys, order, pending, left, List.nil_append]
      rw [induction (turns.consistent sound) ordered, List.flatten_cons, List.append_assoc]

theorem seeds_pending {definitions : Definitions} (distinct : definitions.keys.Nodup) :
    (seeds definitions).pendingKeys = (seeds definitions).entries.keys := by
  rw [pendingKeys, (seeded_seeds definitions distinct).unprocessed]
  exact List.filter_eq_self.mpr (by simp)

/-- The passes behind a graph: they are counted, and they go through all entries once, in order. -/
theorem passes_of_resolved {definitions : Definitions} {graph : TypeGraph}
    (distinct : definitions.keys.Nodup)
    (resolved : resolveGraph context definitions Registry.empty = .ok (graph, last, notices)) :
    ∃ batches, Passes context (seeds definitions) batches last ∧
      batches.flatten = last.entries.keys ∧ graph.passes = batches.length := by
  unfold resolveGraph at resolved
  dsimp only at resolved
  split at resolved
  · cases resolved
  · rename_i passes registry noticed ended
    cases resolved
    obtain ⟨batches, told, counted⟩ := passes_of_run ended
    have start : (seeds definitions).entries.keys = [] ++ (seeds definitions).pendingKeys :=
      (seeds_pending distinct).symm
    have order := told.in_order (seeded_seeds definitions distinct).consistent start
    exact ⟨batches, told, order.symm, counted.trans (Nat.zero_add _)⟩

end DtoForge.Resolution
