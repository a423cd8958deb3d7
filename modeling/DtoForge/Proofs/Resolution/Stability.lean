import DtoForge.Proofs.Registry.History
import DtoForge.Proofs.Schema.Shape
import DtoForge.Resolution.Type

/-!
Shared names under any interleaving of seeds and resolves. The calls come in any order, with any
keys, hints and enclosing entries, and each resolve has its own policy. A seed may even replace the
entry of its key, so a registry need not be consistent here: all that is used is that names in use
are taken.
-/

namespace DtoForge.Resolution

open Registry

inductive Call
  | seed (key : Text) (schema : Schema)
  | resolve (policy : Policy) (hint : Option Text) (enclosing : Option Entry) (schema : Schema)

namespace Call

def outcome (threshold : Nat) (registry : Registry) : Call → FieldType × Registry
  | .seed key schema =>
    let (name, registry) := registry.seed key schema
    (.record name, registry)
  | .resolve policy hint enclosing schema =>
    let (type, registry, _) := Resolution.resolve threshold policy hint enclosing registry schema
    (type, registry)

def seeded? : Call → Option Text
  | .seed key _ => some key
  | .resolve _ _ _ _ => none

def policy? : Call → Option Policy
  | .seed _ _ => none
  | .resolve policy _ _ _ => some policy

end Call

/-- A registry in use, with the names returned so far. -/
structure Session where
  registry : Registry
  returned : List Text

namespace Session

def start : Session := ⟨Registry.empty, []⟩

def call (threshold : Nat) (session : Session) (call : Call) : Session :=
  let (type, registry) := call.outcome threshold session.registry
  ⟨registry, session.returned ++ type.recordName?.toList⟩

def run (threshold : Nat) (session : Session) (history : List Call) : Session :=
  history.foldl (call threshold) session

end Session

/-! ### One call -/

/-- A name that some declared key or some signature goes by. -/
def Known (registry : Registry) (name : Text) : Prop :=
  (∃ key, registry.lookupReference key = some name) ∨
    ∃ signature, registry.canonicalName signature = some name

/-- All that a call does, whichever it is. -/
structure Step (call : Call) (before : Registry) (type : FieldType) (after : Registry) : Prop where
  taken : ∀ name ∈ before.taken, name ∈ after.taken
  shared : after.namesBySignature = before.namesBySignature ∨
    ∃ signature name, call.policy? ≠ some .inline ∧ before.canonicalName signature = none ∧
      name ∈ after.taken ∧ after.namesBySignature = before.namesBySignature.put signature name
  declared : after.declaredNames = before.declaredNames ∨
    ∃ key name, call.seeded? = some key ∧ (Known before name ∨ name ∈ after.taken) ∧
      after.declaredNames = before.declaredNames.put key name
  registered :
    (after.entries = before.entries ∧ ∀ name, type.recordName? = some name → Known before name) ∨
    ∃ entry : Entry, entry.typeName ∉ before.taken ∧ entry.typeName ∈ after.taken ∧
      type.recordName? = some entry.typeName ∧
        after.entries = before.entries.put entry.key entry

variable {threshold : Nat} {registry : Registry}

theorem step_kept (call : Call) {type : FieldType}
    (known : ∀ name, type.recordName? = some name → Known registry name) :
    Step call registry type registry where
  taken := fun _ old => old
  shared := Or.inl rfl
  declared := Or.inl rfl
  registered := Or.inl ⟨rfl, known⟩

theorem step_registered {call : Call} {before after : Registry} (entry : Entry)
    (fresh : entry.typeName ∉ before.taken)
    (taken : after.taken = entry.typeName :: entry.key :: before.taken)
    (entries : after.entries = before.entries.put entry.key entry)
    (shared : after.namesBySignature = before.namesBySignature ∨
      call.policy? ≠ some .inline ∧ before.canonicalName entry.signature = none ∧
        after.namesBySignature = before.namesBySignature.put entry.signature entry.typeName)
    (declared : after.declaredNames = before.declaredNames ∨
      call.seeded? = some entry.key ∧
        after.declaredNames = before.declaredNames.put entry.key entry.typeName) :
    Step call before (.record entry.typeName) after := by
  have held : entry.typeName ∈ after.taken := by
    rw [taken]
    exact List.mem_cons_self
  constructor
  case taken =>
    intro name old
    rw [taken]
    exact List.mem_cons_of_mem _ (List.mem_cons_of_mem _ old)
  case shared =>
    rcases shared with same | ⟨foreign, missing, put⟩
    · exact Or.inl same
    · exact Or.inr ⟨entry.signature, entry.typeName, foreign, missing, held, put⟩
  case declared =>
    rcases declared with same | ⟨seeds, put⟩
    · exact Or.inl same
    · exact Or.inr ⟨entry.key, entry.typeName, seeds, Or.inr held, put⟩
  case registered => exact Or.inr ⟨entry, fresh, held, rfl, entries⟩

theorem step_of_seed (key : Text) (schema : Schema) :
    Step (.seed key schema) registry (.record (registry.seed key schema).1)
      (registry.seed key schema).2 := by
  rcases seed_effect registry key schema with ⟨canonical, -, found, seeded⟩ |
      ⟨name, fresh, -, missing, seeded⟩ | ⟨name, fresh, -, seeded⟩ <;>
    rw [seeded]
  · have known : Known registry canonical := Or.inr ⟨schema.signature, found⟩
    constructor
    case taken => exact fun _ old => List.mem_cons_of_mem _ old
    case shared => exact Or.inl rfl
    case declared => exact Or.inr ⟨key, canonical, rfl, Or.inl known, rfl⟩
    case registered =>
      refine Or.inl ⟨rfl, ?_⟩
      rintro name same
      cases same
      exact known
  · exact step_registered ⟨key, name, schema, schema.signature, none⟩ fresh rfl rfl
      (Or.inr ⟨nofun, missing, rfl⟩) (Or.inr ⟨rfl, rfl⟩)
  · exact step_registered ⟨key, name, schema, schema.signature, none⟩ fresh rfl rfl
      (Or.inl rfl) (Or.inr ⟨rfl, rfl⟩)

theorem step_of_inline (call : Call) (hint : Option Text) (enclosing : Option Entry)
    (schema : Schema) :
    let registered := registry.registerInline hint schema schema.signature enclosing
    Step call registry (.record registered.1) registered.2 := by
  obtain ⟨name, count, fresh, made⟩ :=
    inline_effect registry hint schema schema.signature enclosing
  rw [made]
  exact step_registered ⟨name, name, schema, schema.signature, enclosing.map (·.host)⟩ fresh rfl rfl
    (Or.inl rfl) (Or.inl rfl)

theorem step_of_promote (call : Call) (promotes : call.policy? = some .promote)
    (hint : Option Text) (schema : Schema)
    (missing : registry.canonicalName schema.signature = none) :
    let registered := registry.registerPromoted hint schema schema.signature
    Step call registry (.record registered.1) registered.2 := by
  obtain ⟨name, count, fresh, made⟩ := promoted_effect registry hint schema schema.signature
  have foreign : call.policy? ≠ some .inline := by
    rw [promotes]
    nofun
  rw [made]
  exact step_registered ⟨name, name, schema, schema.signature, none⟩ fresh rfl rfl
    (Or.inr ⟨foreign, missing, rfl⟩) (Or.inl rfl)

theorem step_of_object (call : Call) (policy : Policy) (decided : call.policy? = some policy)
    (hint : Option Text) (enclosing : Option Entry) (schema : Schema) (count : Nat) :
    let result := resolveObject threshold policy hint enclosing registry schema count
    Step call registry result.1 result.2.1 := by
  unfold resolveObject
  split
  · exact step_kept call nofun
  cases policy with
  | inline =>
      dsimp only
      split
      · exact step_kept call nofun
      · exact step_of_inline call hint enclosing schema
  | promote =>
      dsimp only
      split
      · rename_i name found
        refine step_kept call ?_
        rintro other same
        cases same
        exact Or.inr ⟨schema.signature, found⟩
      · rename_i missing
        exact step_of_promote call decided hint schema missing

theorem step_of_resolve (call : Call) (policy : Policy) (decided : call.policy? = some policy)
    (hint : Option Text) (enclosing : Option Entry) (schema : Schema) :
    let result := resolve threshold policy hint enclosing registry schema
    Step call registry result.1 result.2.1 := by
  fun_induction resolve threshold policy hint enclosing registry schema with
  | case1 pointer =>
      unfold resolveReference
      dsimp only
      split
      · exact step_kept call nofun
      · rename_i name found
        refine step_kept call ?_
        rintro other same
        cases same
        exact Or.inl ⟨_, found⟩
  | case2 properties required => exact step_of_object call policy decided hint enclosing _ _
  | case3 items item after notices resolved induction =>
      rw [resolved] at induction
      exact ⟨induction.taken, induction.shared, induction.declared, induction.registered⟩
  | case4 kind format => exact step_kept call nofun
  | case5 tag => exact step_kept call nofun

theorem step_of_call (threshold : Nat) (call : Call) :
    Step call registry (call.outcome threshold registry).1 (call.outcome threshold registry).2 := by
  cases call with
  | seed key schema => exact step_of_seed key schema
  | resolve policy hint enclosing schema => exact step_of_resolve _ policy rfl hint enclosing schema

theorem Step.canonical {call : Call} {before after : Registry} {type : FieldType}
    (step : Step call before type after) {signature name : Text}
    (bound : before.canonicalName signature = some name) :
    after.canonicalName signature = some name := by
  rcases step.shared with same | ⟨other, chosen, -, missing, -, put⟩
  · rw [canonicalName, same]
    exact bound
  · have differ : signature ≠ other := by
      rintro rfl
      rw [missing] at bound
      cases bound
    rw [canonicalName, put, Table.get_put_of_ne _ _ _ _ differ]
    exact bound

theorem Step.known {call : Call} {before after : Registry} {type : FieldType}
    (step : Step call before type after) {name : Text} (known : Known after name) :
    Known before name ∨ name ∈ after.taken := by
  rcases known with ⟨key, declared⟩ | ⟨signature, canonical⟩
  · rw [lookupReference] at declared
    rcases step.declared with same | ⟨seeded, chosen, -, held, put⟩
    · rw [same] at declared
      exact Or.inl (Or.inl ⟨key, declared⟩)
    · rw [put] at declared
      rcases get_put_cases _ _ _ _ _ declared with ⟨-, rfl⟩ | old
      · exact held
      · exact Or.inl (Or.inl ⟨key, old⟩)
  · rw [canonicalName] at canonical
    rcases step.shared with same | ⟨other, chosen, -, -, held, put⟩
    · rw [same] at canonical
      exact Or.inl (Or.inr ⟨signature, canonical⟩)
    · rw [put] at canonical
      rcases get_put_cases _ _ _ _ _ canonical with ⟨-, rfl⟩ | old
      · exact Or.inr held
      · exact Or.inl (Or.inr ⟨signature, old⟩)

/-! ### Any history of calls -/

structure Session.Guarded (session : Session) : Prop where
  known : ∀ name, Known session.registry name → name ∈ session.registry.taken
  returned : ∀ name ∈ session.returned, name ∈ session.registry.taken

theorem guarded_start : Session.start.Guarded where
  known := by simp [Known, Session.start, empty, lookupReference, canonicalName, Table.get?]
  returned := nofun

theorem Session.Guarded.called {session : Session} (guarded : session.Guarded) (call : Call) :
    (session.call threshold call).Guarded := by
  have step : Step call session.registry _ _ := step_of_call threshold call
  have kept (name : Text) (known : Known session.registry name) :
      name ∈ (call.outcome threshold session.registry).2.taken :=
    step.taken name (guarded.known name known)
  constructor
  case known => exact fun name known => (step.known known).elim (kept name) id
  case returned =>
    intro name member
    rcases List.mem_append.mp member with old | new
    · exact step.taken name (guarded.returned name old)
    · have returns : (call.outcome threshold session.registry).1.recordName? = some name :=
        Option.mem_toList.mp new
      rcases step.registered with ⟨-, known⟩ | ⟨entry, -, held, named, -⟩
      · exact kept name (known name returns)
      · rw [returns] at named
        cases named
        exact held

theorem Session.Guarded.ran {session : Session} (guarded : session.Guarded) (history : List Call) :
    (session.run threshold history).Guarded := by
  induction history generalizing session with
  | nil => exact guarded
  | cons call rest induction => exact induction (guarded.called call)

theorem canonical_kept {session : Session} {signature name : Text}
    (bound : session.registry.canonicalName signature = some name) (history : List Call) :
    (session.run threshold history).registry.canonicalName signature = some name := by
  induction history generalizing session with
  | nil => exact bound
  | cons call rest induction =>
      have step : Step call session.registry _ _ := step_of_call threshold call
      exact induction (step.canonical bound)

/-! ### What a shared name promises -/

/-- A signature with a shared name: objects of that shape get the name and register nothing. -/
structure Canonical (threshold : Nat) (registry : Registry) (signature name : Text) : Prop where
  bound : registry.canonicalName signature = some name
  resolves : ∀ hint enclosing schema, schema.hasProperties = true → schema.signature = signature →
    resolve threshold .promote hint enclosing registry schema = (.record name, registry, [])
  seeds : ∀ key schema, schema.hasProperties = true → schema.signature = signature →
    (registry.seed key schema).1 = name ∧ (registry.seed key schema).2.entries = registry.entries

theorem canonical_of_bound {signature name : Text}
    (bound : registry.canonicalName signature = some name) :
    Canonical threshold registry signature name where
  bound := bound
  resolves := by
    rintro hint enclosing schema shaped rfl
    cases schema with
    | object properties required =>
        have some : properties.length ≠ 0 := by
          rw [Ne, List.length_eq_zero_iff]
          exact (Schema.has_properties_iff properties required).mp shaped
        rw [resolve, resolveObject, if_neg some]
        simp only [bound]
    | array | primitive | reference | unknown => cases shaped
  seeds := by
    rintro key schema shaped rfl
    rcases seed_effect registry key schema with
      ⟨canonical, -, found, seeded⟩ | ⟨_, -, -, missing, -⟩ | ⟨_, -, shapeless, -⟩
    · rw [bound] at found
      cases found
      rw [seeded]
      exact ⟨rfl, rfl⟩
    · rw [bound] at missing
      cases missing
    · rw [shaped] at shapeless
      cases shapeless

/-- What a call never touches: a private object leaves the shared names alone, a new entry gets a
name that was never returned, and only a seed of a key changes what the key refers to. -/
structure Careful (threshold : Nat) (session : Session) (call : Call) : Prop where
  inlines : call.policy? = some .inline → ∀ signature,
    (session.call threshold call).registry.canonicalName signature =
      session.registry.canonicalName signature
  registers : (session.call threshold call).registry.entries = session.registry.entries ∨
    ∃ entry : Entry, (session.call threshold call).registry.entries =
        session.registry.entries.put entry.key entry ∧
      (call.outcome threshold session.registry).1.recordName? = some entry.typeName ∧
        entry.typeName ∉ session.returned
  refers : ∀ key, (session.call threshold call).registry.lookupReference key ≠
    session.registry.lookupReference key → call.seeded? = some key

theorem Session.Guarded.careful {session : Session} (guarded : session.Guarded) (call : Call) :
    Careful threshold session call := by
  have step : Step call session.registry _ _ := step_of_call threshold call
  constructor
  case inlines =>
    intro inline signature
    rcases step.shared with same | ⟨_, _, foreign, -⟩
    · exact congrArg (Table.get? · signature) same
    · exact absurd inline foreign
  case registers =>
    rcases step.registered with ⟨same, -⟩ | ⟨entry, fresh, -, named, put⟩
    · exact Or.inl same
    · exact Or.inr ⟨entry, put, named, fun returned => fresh (guarded.returned _ returned)⟩
  case refers =>
    intro key changed
    rcases step.declared with same | ⟨seeded, chosen, seeds, -, put⟩
    · exact absurd (congrArg (Table.get? · key) same) changed
    · rw [seeds, Option.some.injEq]
      by_contra differ
      apply changed
      have kept := Table.get_put_of_ne session.registry.declaredNames seeded key chosen
          (Ne.symm differ)
      rw [← put] at kept
      exact kept

/-- However seeds and resolves are mixed, a shared name stays and keeps its promise, and each
further call is careful. -/
theorem canonical_types_stable (threshold : Nat) (history continuation : List Call) (call : Call) :
    let session := Session.start.run threshold history
    (∀ signature name, session.registry.canonicalName signature = some name →
      Canonical threshold (session.run threshold continuation).registry signature name) ∧
        Careful threshold session call := by
  intro session
  constructor
  · intro signature name bound
    exact canonical_of_bound (canonical_kept bound continuation)
  · exact (guarded_start.ran history).careful call

def mixedCalls : List Call :=
  [.seed "Address" cityShape, .resolve .inline (some "address") none cityShape,
    .seed "Location" cityShape, .seed "Location" (.object [] [])]

theorem canonical_types_stable_mixed :
    (Session.start.run 2 mixedCalls).registry.canonicalName cityShape.signature =
        some ("Address" : Text) ∧
      cityShape.hasProperties = true ∧
        resolve 2 .promote none none
            ((Session.start.run 2 mixedCalls).run 2 mixedCalls).registry cityShape =
          (.record "Address", ((Session.start.run 2 mixedCalls).run 2 mixedCalls).registry, []) ∧
          Careful 2 (Session.start.run 2 mixedCalls) (.resolve .inline none none cityShape) := by
  have bound : (Session.start.run 2 mixedCalls).registry.canonicalName cityShape.signature =
      some ("Address" : Text) := by decide +kernel
  have shaped : cityShape.hasProperties = true := rfl
  obtain ⟨stable, careful⟩ := canonical_types_stable 2 mixedCalls mixedCalls
    (.resolve .inline none none cityShape)
  exact ⟨bound, shaped, (stable _ _ bound).resolves none none cityShape shaped rfl, careful⟩

end DtoForge.Resolution
