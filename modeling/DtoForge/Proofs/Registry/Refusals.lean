import DtoForge.Proofs.Registry.History

/-!
Requests that a registry refuses: work on a processed key, and a key without entry. What can be
asked later is the same as if the request had not been made, whatever operations come between,
refused ones included; only work that is begun on a key without entry leaves the key marked as in
progress, until a record is completed under it. Nothing is assumed about the registry or about the
operations.
-/

namespace DtoForge.Registry

/-- What may be asked for by key and be refused. -/
inductive Request
  | begin (key : Text)
  | entry (key : Text)

def Request.answer (registry : Registry) : Request → Except RegistryFault Entry × Registry
  | .begin key => registry.begin key
  | .entry key => (registry.entry key, registry)

/-- What an operation gives back to its caller. -/
inductive Reply
  | name (name : Text)
  | entry (answer : Except RegistryFault Entry)
  | done

def Operation.reply (registry : Registry) : Operation → Reply
  | .seed key schema => .name (registry.seed key schema).1
  | .promote hint schema signature => .name (registry.registerPromoted hint schema signature).1
  | .inline hint schema signature enclosing =>
    .name (registry.registerInline hint schema signature enclosing).1
  | .begin key => .entry (registry.begin key).1
  | .complete _ _ => .done

def replies (registry : Registry) : List Operation → List Reply
  | [] => []
  | operation :: rest => operation.reply registry :: replies (operation.apply registry) rest

/-- Everything that can be asked of two registries is answered alike, but for the work in
progress. -/
structure SameAnswers (left right : Registry) : Prop where
  pendingKeys : left.pendingKeys = right.pendingKeys
  hasEntry : left.hasEntry = right.hasEntry
  entry : left.entry = right.entry
  recordFor : left.recordFor = right.recordFor
  records : left.records = right.records
  lookupReference : left.lookupReference = right.lookupReference
  canonicalName : left.canonicalName = right.canonicalName

/-! ### The work in progress stands apart -/

variable {registry left right : Registry} {operation : Operation} {key : Text}

def withProgress (registry : Registry) (progress : List Text) : Registry :=
  { registry with inProgress := progress }

theorem same_answers_with_progress (registry : Registry) (progress : List Text) :
    SameAnswers (registry.withProgress progress) registry :=
  ⟨rfl, rfl, rfl, rfl, rfl, rfl, rfl⟩

theorem seed_with_progress (registry : Registry) (progress : List Text) (key : Text)
    (schema : Schema) :
    (registry.withProgress progress).seed key schema =
      ((registry.seed key schema).1, (registry.seed key schema).2.withProgress progress) := by
  have named : (registry.withProgress progress).canonicalName schema.signature =
      registry.canonicalName schema.signature := rfl
  unfold seed
  rw [named]
  split
  · cases registry.canonicalName schema.signature with
    | none => rfl
    | some canonical => rfl
  · rfl

theorem candidate_with_progress (registry : Registry) (progress : List Text)
    (hint : Option Text) :
    (registry.withProgress progress).candidateName hint =
      ((registry.candidateName hint).1, (registry.candidateName hint).2.withProgress progress) := by
  unfold candidateName
  cases hint with
  | none => rfl
  | some hint =>
      dsimp only
      split
      · rfl
      · rfl

theorem promoted_with_progress (registry : Registry) (progress : List Text)
    (hint : Option Text) (schema : Schema) (signature : Text) :
    (registry.withProgress progress).registerPromoted hint schema signature =
      ((registry.registerPromoted hint schema signature).1,
        (registry.registerPromoted hint schema signature).2.withProgress progress) := by
  unfold registerPromoted
  rw [candidate_with_progress]
  rfl

theorem inline_with_progress (registry : Registry) (progress : List Text)
    (hint : Option Text) (schema : Schema) (signature : Text) (enclosing : Option Entry) :
    (registry.withProgress progress).registerInline hint schema signature enclosing =
      ((registry.registerInline hint schema signature enclosing).1,
        (registry.registerInline hint schema signature enclosing).2.withProgress progress) := by
  unfold registerInline
  rw [candidate_with_progress]
  rfl

def begunProgress (registry : Registry) (progress : List Text) (key : Text) : List Text :=
  if registry.processed.contains key || progress.contains key then progress else key :: progress

theorem begin_eq (registry : Registry) (key : Text) :
    registry.begin key =
      (if registry.processed.contains key then .error (.alreadyProcessed key) else
        registry.entry key,
        registry.withProgress (registry.begunProgress registry.inProgress key)) := by
  have busy : registry.isInProgress key = registry.inProgress.contains key := rfl
  unfold begin begunProgress
  rw [busy]
  cases registry.processed.contains key with
  | true => rfl
  | false =>
      cases registry.inProgress.contains key with
      | true => rfl
      | false => rfl

theorem begin_with_progress (registry : Registry) (progress : List Text) (key : Text) :
    (registry.withProgress progress).begin key =
      ((registry.begin key).1,
        (registry.begin key).2.withProgress (registry.begunProgress progress key)) := by
  rw [begin_eq, begin_eq]
  rfl

def Operation.progress (registry : Registry) (progress : List Text) : Operation → List Text
  | .begin key => registry.begunProgress progress key
  | .complete key _ => progress.filter (· ≠ key)
  | .seed _ _ | .promote _ _ _ | .inline _ _ _ _ => progress

/-- An operation makes of the keys in progress what it makes of them, and does not look at them
otherwise. -/
theorem apply_with_progress (operation : Operation) (registry : Registry) (progress : List Text) :
    operation.apply (registry.withProgress progress) =
        (operation.apply registry).withProgress (operation.progress registry progress) ∧
      operation.reply (registry.withProgress progress) = operation.reply registry := by
  cases operation with
  | seed key schema =>
      simp only [Operation.apply, Operation.reply, Operation.progress, seed_with_progress, and_self]
  | promote hint schema signature =>
      simp only [Operation.apply, Operation.reply, Operation.progress, promoted_with_progress,
        and_self]
  | inline hint schema signature enclosing =>
      simp only [Operation.apply, Operation.reply, Operation.progress, inline_with_progress,
        and_self]
  | begin key =>
      simp only [Operation.apply, Operation.reply, Operation.progress, begin_with_progress,
        and_self]
  | complete key record => exact ⟨rfl, rfl⟩

theorem progress_applied (operation : Operation) (registry : Registry) :
    (operation.apply registry).inProgress = operation.progress registry registry.inProgress :=
  congrArg inProgress (apply_with_progress operation registry registry.inProgress).1

theorem mem_begun_progress_iff (progress : List Text) (other : Text) :
    other ∈ registry.begunProgress progress key ↔
      other = key ∧ key ∉ registry.processed ∨ other ∈ progress := by
  unfold begunProgress
  split
  · rename_i kept
    simp only [Bool.or_eq_true, List.contains_iff_mem] at kept
    constructor
    · exact Or.inr
    · rintro (⟨rfl, unprocessed⟩ | old)
      · exact kept.resolve_left unprocessed
      · exact old
  · rename_i marked
    simp only [Bool.or_eq_true, List.contains_iff_mem, not_or] at marked
    rw [List.mem_cons, and_iff_left marked.1]

theorem mem_progress_iff (progress : List Text) (key : Text) :
    key ∈ operation.progress registry progress ↔
      operation = .begin key ∧ key ∉ registry.processed ∨
        key ∈ progress ∧ key ∉ completedKeys [operation] := by
  cases operation with
  | seed other schema | promote hint schema signature | inline hint schema signature enclosing =>
      simp [Operation.progress, completedKeys, completions, Operation.completed?, Table.keys]
  | complete other record =>
      simp [Operation.progress, completedKeys, completions, Operation.completed?, Table.keys]
  | begin other =>
      have none : key ∉ completedKeys [Operation.begin other] := List.not_mem_nil
      rw [Operation.progress, mem_begun_progress_iff, and_iff_left none, Operation.begin.injEq]
      constructor
      · rintro (⟨rfl, unprocessed⟩ | old)
        · exact Or.inl ⟨rfl, unprocessed⟩
        · exact Or.inr old
      · rintro (⟨rfl, unprocessed⟩ | old)
        · exact Or.inl ⟨rfl, unprocessed⟩
        · exact Or.inr old

/-! ### Runs of two registries -/

/-- The first registry differs from the second at most by marks on some keys. -/
def Trails (marked : Text → Prop) (left right : Registry) : Prop :=
  ∃ progress, left = right.withProgress progress ∧
    ∀ key, key ∈ progress ↔ key ∈ right.inProgress ∨ marked key

variable {marked : Text → Prop}

theorem Trails.applied (trails : Trails marked left right) (operation : Operation) :
    Trails (fun key => marked key ∧ key ∉ completedKeys [operation]) (operation.apply left)
        (operation.apply right) ∧
      operation.reply left = operation.reply right := by
  obtain ⟨progress, rfl, members⟩ := trails
  obtain ⟨applied, replied⟩ := apply_with_progress operation right progress
  refine ⟨⟨_, applied, fun key => ?_⟩, replied⟩
  rw [progress_applied, mem_progress_iff, mem_progress_iff, members, or_and_right, or_assoc]

theorem completed_keys_cons (operation : Operation) (rest : List Operation) :
    completedKeys (operation :: rest) = completedKeys [operation] ++ completedKeys rest := by
  rw [← List.singleton_append, completedKeys, completions, List.filterMap_append]
  exact List.map_append

theorem Trails.performed (trails : Trails marked left right) (continuation : List Operation) :
    Trails (fun key => marked key ∧ key ∉ completedKeys continuation)
        (left.perform continuation) (right.perform continuation) ∧
      left.replies continuation = right.replies continuation := by
  induction continuation generalizing marked left right with
  | nil =>
      have none (key : Text) : key ∉ completedKeys [] := List.not_mem_nil
      simp only [none, not_false_eq_true, and_true]
      exact ⟨trails, rfl⟩
  | cons operation rest induction =>
      obtain ⟨next, replied⟩ := trails.applied operation
      obtain ⟨last, others⟩ := induction next
      simp only [completed_keys_cons operation rest, List.mem_append, not_or, ← and_assoc]
      exact ⟨last, by rw [replies, replies, replied, others]⟩

/-! ### Refused requests -/

/-- Refused work on a processed key changes nothing, and neither does a refused look-up; refused
work on a key without entry marks the key. -/
theorem refused_trails {request : Request} {fault : RegistryFault}
    (refused : (request.answer registry).1 = .error fault) :
    Trails (fun key => request = .begin key ∧ fault = .noEntry key) (request.answer registry).2
      registry := by
  cases request with
  | entry other => exact ⟨registry.inProgress, rfl, fun key => by simp⟩
  | begin other =>
      rw [Request.answer, begin_eq] at refused ⊢
      refine ⟨_, rfl, fun key => ?_⟩
      dsimp only at refused ⊢
      rw [mem_begun_progress_iff, or_comm, Request.begin.injEq]
      apply or_congr_right
      by_cases processed : other ∈ registry.processed
      · rw [if_pos (by simpa using processed)] at refused
        cases refused
        simp [processed]
      · rw [if_neg (by simpa using processed), Registry.entry] at refused
        split at refused
        · cases refused
        · cases refused
          simp [processed, eq_comm]

/-- What shows later of a refused request: a mark on a key without entry on which work was begun, as
long as no record is completed under the key. -/
structure TracesMarkOnly (registry : Registry) (request : Request) (fault : RegistryFault)
    (continuation : List Operation) : Prop where
  replies : (request.answer registry).2.replies continuation = registry.replies continuation
  answers : SameAnswers ((request.answer registry).2.perform continuation)
    (registry.perform continuation)
  progress : ∀ key, ((request.answer registry).2.perform continuation).isInProgress key = true ↔
    (registry.perform continuation).isInProgress key = true ∨
      (request = .begin key ∧ fault = .noEntry key) ∧ key ∉ completedKeys continuation

theorem refusals_trace_mark_only (registry : Registry) (request : Request) (fault : RegistryFault)
    (refused : (request.answer registry).1 = .error fault) (continuation : List Operation) :
    TracesMarkOnly registry request fault continuation := by
  obtain ⟨⟨progress, same, members⟩, replies⟩ := (refused_trails refused).performed continuation
  refine ⟨replies, ?_, fun key => ?_⟩
  · rw [same]
    exact same_answers_with_progress _ _
  · rw [same, isInProgress, isInProgress, List.contains_iff_mem, List.contains_iff_mem]
    exact members key

def misspeltContinuation : List Operation :=
  [.begin "Address", .seed "Adress" (.object [] []), .promote none (.primitive .string none) "name",
    .begin "Adress", .complete "Adress" ⟨"Adress", [], "", none⟩, .begin "Adress"]

theorem misspelt_key_traced :
    ((Request.begin "Adress").answer (empty.seed "Address" cityShape).2).1 =
        .error (.noEntry "Adress") ∧
      TracesMarkOnly (empty.seed "Address" cityShape).2 (.begin "Adress") (.noEntry "Adress")
        misspeltContinuation := by
  have refused : ((Request.begin "Adress").answer (empty.seed "Address" cityShape).2).1 =
      .error (.noEntry "Adress") := rfl
  exact ⟨refused, refusals_trace_mark_only _ _ _ refused _⟩

/-- Nothing is registered, work on a key is refused, and the key is in progress. -/
theorem refused_key_in_progress :
    (empty.begin "Address").1 = .error (.noEntry "Address") ∧
      empty.isInProgress "Address" = false ∧
        (empty.begin "Address").2.isInProgress "Address" = true :=
  ⟨rfl, by decide, by decide⟩

end DtoForge.Registry
