import DtoForge.Proofs.Resolution.Turns

/-!
A plain queue, which takes one pending key at a time, against the passes of a run. Both leave the
same registry, whatever a turn discovers, because a turn only adds behind the keys that wait.
-/

namespace DtoForge.Resolution

open Registry

/-- Takes the first pending key, builds and stores its record, and goes on until nothing is pending.
Gives the keys in the order in which they were taken. -/
def drain (context : Context) (registry : Registry) :
    Except RegistryFault (List Text × Registry) :=
  match registry.pendingKeys with
  | [] => .ok ([], registry)
  | key :: _ =>
    match _worked : materialize context registry key with
    | .error fault => .error fault
    | .ok (after, _) =>
      match drain context after with
      | .error fault => .error fault
      | .ok (later, last) => .ok (key :: later, last)
termination_by pendingWeight registry
decreasing_by exact weight_materialize_lt _ _ _ _ _ _worked

def queueGraph (context : Context) (definitions : Definitions) (registry : Registry) :
    Except RegistryFault (List Record × List Text × Registry) :=
  (drain context (seedAll definitions registry).1).map fun (keys, last) =>
    (last.records, keys, last)

variable {context : Context} {registry before begun worked middle last : Registry}
  {key : Text} {rest batch later : List Text} {batches : List (List Text)} {entry : Entry}
  {record : Record} {notices : List Notice}

theorem drain_turn (first : before.pendingKeys = key :: rest)
    (begins : before.begin key = (.ok entry, begun))
    (builds : recordOf context entry begun = (record, worked, notices))
    (drained : drain context (worked.complete key record) = .ok (later, last)) :
    drain context before = .ok (key :: later, last) := by
  have made : materialize context before key = .ok (worked.complete key record, notices) := by
    simp only [materialize, begins, builds]
  rw [drain, first]
  dsimp only
  split
  · rename_i fault failed
    rw [made] at failed
    cases failed
  · rename_i after noticed done
    rw [made] at done
    cases done
    rw [drained]

/-- The queue takes the keys of a whole batch before it takes what they discover. -/
theorem Turns.drained (turns : Turns context registry batch middle) (sound : Consistent registry)
    {others : List Text} (first : registry.pendingKeys = batch ++ others)
    (drained : drain context middle = .ok (later, last)) :
    drain context registry = .ok (batch ++ later, last) := by
  induction turns generalizing others with
  | none => exact drained
  | turn begins builds _ induction =>
      have settling := settling_of_turn sound begins builds
      obtain ⟨new, -, pending⟩ := settling.discovers sound first
      exact drain_turn first begins builds
        (induction (settling.consistent sound) (pending.trans (List.append_assoc _ _ _)) drained)

theorem Passes.drained (passes : Passes context registry batches last)
    (sound : Consistent registry) : drain context registry = .ok (batches.flatten, last) := by
  induction passes with
  | settled done =>
      rw [drain, done]
      rfl
  | pass pending _ turns _ induction =>
      exact turns.drained sound (pending.trans (List.append_nil _).symm)
        (induction (turns.consistent sound))

end DtoForge.Resolution
