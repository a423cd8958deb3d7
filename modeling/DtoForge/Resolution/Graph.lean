import DtoForge.Resolution.Weight

/-!
The type graph of some definitions. Declared definitions are registered first; then each pass
builds the records of all keys that are pending at its start, and what a pass registers is left
for the next. The passes end because every record built lowers the pending weight.
-/

namespace DtoForge.Resolution

def materialize (context : Context) (registry : Registry) (key : Text) :
    Except RegistryFault (Registry × List Notice) :=
  match registry.begin key with
  | (.error fault, _) => .error fault
  | (.ok entry, begun) =>
    let (record, worked, notices) := recordOf context entry begun
    .ok (worked.complete key record, notices)

def materializeAll (context : Context) :
    List Text → Registry → Except RegistryFault (Registry × List Notice)
  | [], registry => .ok (registry, [])
  | key :: rest, registry =>
    match materialize context registry key with
    | .error fault => .error fault
    | .ok (registry, notices) =>
      match materializeAll context rest registry with
      | .error fault => .error fault
      | .ok (registry, later) => .ok (registry, notices ++ later)

theorem begin_ok (registry begun : Registry) (key : Text) (entry : Entry)
    (started : registry.begin key = (.ok entry, begun)) :
    registry.processed.contains key = false ∧ registry.entries.get? key = some entry ∧
      begun.entries = registry.entries ∧ begun.processed = registry.processed := by
  unfold Registry.begin at started
  split at started
  · cases started
  · rename_i unprocessed
    have found (state : Registry) (read : state.entry key = .ok entry) :
        state.entries.get? key = some entry := by
      unfold Registry.entry at read
      split at read
      · rename_i stored
        cases read
        exact stored
      · cases read
    dsimp only at started
    refine ⟨by simpa using unprocessed, ?_⟩
    split at started
    · injection started with read same
      subst same
      exact ⟨found _ read, rfl, rfl⟩
    · injection started with read same
      subst same
      exact ⟨found _ read, rfl, rfl⟩

theorem weight_materialize_lt (context : Context) (registry after : Registry) (key : Text)
    (notices : List Notice) (worked : materialize context registry key = .ok (after, notices)) :
    pendingWeight after < pendingWeight registry := by
  unfold materialize at worked
  split at worked
  · cases worked
  · rename_i entry begun started
    obtain ⟨unprocessed, stored, sameEntries, sameProcessed⟩ := begin_ok _ _ _ _ started
    have counted := weight_cons_add_le registry.processed registry.entries key entry stored
        unprocessed
    have built := weight_record_lt (key :: registry.processed) context entry begun
    have kept := processed_record context entry begun
    rw [sameEntries] at built
    rw [sameProcessed] at kept
    simp only [Except.ok.injEq, Prod.mk.injEq] at worked
    obtain ⟨rfl, -⟩ := worked
    have split_done :
        ((recordOf context entry begun).2.1.complete key
          (recordOf context entry begun).1).processed =
          key :: registry.processed := by
      simp only [Registry.complete, kept, unprocessed]
      rfl
    have same_entries :
        ((recordOf context entry begun).2.1.complete key (recordOf context entry begun).1).entries =
          (recordOf context entry begun).2.1.entries := rfl
    unfold pendingWeight
    rw [split_done, same_entries]
    omega

theorem weight_materialize_all_le (context : Context) (keys : List Text)
    (registry after : Registry) (notices : List Notice)
    (worked : materializeAll context keys registry = .ok (after, notices)) :
    pendingWeight after ≤ pendingWeight registry := by
  induction keys generalizing registry after notices with
  | nil =>
      simp only [materializeAll, Except.ok.injEq, Prod.mk.injEq] at worked
      exact Nat.le_of_eq (congrArg pendingWeight worked.1.symm)
  | cons key rest induction =>
      simp only [materializeAll] at worked
      split at worked
      · cases worked
      · rename_i middle noticed first
        split at worked
        · cases worked
        · rename_i last later others
          cases worked
          exact Nat.le_trans (induction _ _ _ others)
            (Nat.le_of_lt (weight_materialize_lt _ _ _ _ _ first))

theorem weight_materialize_all_lt (context : Context) (key : Text) (rest : List Text)
    (registry after : Registry) (notices : List Notice)
    (worked : materializeAll context (key :: rest) registry = .ok (after, notices)) :
    pendingWeight after < pendingWeight registry := by
  simp only [materializeAll] at worked
  split at worked
  · cases worked
  · rename_i middle noticed first
    split at worked
    · cases worked
    · rename_i last later others
      cases worked
      exact Nat.lt_of_le_of_lt (weight_materialize_all_le _ _ _ _ _ others)
        (weight_materialize_lt _ _ _ _ _ first)

def runPasses (context : Context) (passes : Nat) (registry : Registry) :
    Except RegistryFault (Nat × Registry × List Notice) :=
  match registry.pendingKeys with
  | [] => .ok (passes, registry, [])
  | key :: rest =>
    match _worked : materializeAll context (key :: rest) registry with
    | .error fault => .error fault
    | .ok (after, notices) =>
      match runPasses context (passes + 1) after with
      | .error fault => .error fault
      | .ok (total, last, later) =>
        .ok (total, last, .passStarted (passes + 1) (rest.length + 1) :: notices ++ later)
termination_by pendingWeight registry
decreasing_by exact weight_materialize_all_lt _ _ _ _ _ _ _worked

def seedAll : List (Text × Schema) → Registry → Registry × List Notice
  | [], registry => (registry, [])
  | (key, schema) :: rest, registry =>
    let (name, registry) := registry.seed key schema
    let noticed := if registry.hasEntry key then [] else [.sameShape key name]
    let (registry, later) := seedAll rest registry
    (registry, noticed ++ later)

/-- Resolves definitions on a registry that may already hold others. -/
def resolveGraph (context : Context) (definitions : Definitions) (registry : Registry) :
    Except RegistryFault (TypeGraph × Registry × List Notice) :=
  let (seeded, noticed) := seedAll definitions registry
  match runPasses context 0 seeded with
  | .error fault => .error fault
  | .ok (passes, registry, notices) =>
    let records := registry.records
    .ok (⟨records, passes⟩, registry,
      noticed ++ notices ++ [.graphResolved records.length passes])

def graphOf (context : Context) (definitions : Definitions) :
    Except RegistryFault (TypeGraph × List Notice) :=
  (resolveGraph context definitions Registry.empty).map fun (graph, _, notices) => (graph, notices)

end DtoForge.Resolution
