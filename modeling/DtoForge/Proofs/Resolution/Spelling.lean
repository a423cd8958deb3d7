import DtoForge.Proofs.Naming.Spelling
import DtoForge.Proofs.Resolution.Coherence

/-!
How the type names of a run are spelled. There are few ways to make one: from a declared key or the
name of a property, from a running number, and by qualifying or numbering a name that is made
already. What all of these keep, all type names have. The first use is that every type name is one
word of ASCII letters and digits.
-/

namespace DtoForge.Resolution

open Registry

/-- Something that is true of the names made from some raw names and that stays true under
qualifying and numbering. Only an empty raw name gives way to a running number. -/
structure NameLaw (raws holds : Text → Prop) : Prop where
  typed : ∀ raw, raws raw → holds (Naming.typeName raw)
  positional : raws "" → ∀ number : Nat, holds ("InlineRecord" ++ toString number)
  qualified : ∀ qualifier name, holds qualifier → holds name → holds (qualifier ++ name)
  numbered : ∀ name number, holds name → holds (Naming.numbered name number)

variable {raws holds : Text → Prop}

theorem NameLaw.uniquified (law : NameLaw raws holds) {candidate : Text} (start : holds candidate)
    (taken : List Text) (qualifier : Option Text) (qualified : ∀ name ∈ qualifier, holds name) :
    holds (Naming.uniquify candidate taken qualifier) :=
  Naming.uniquify_keeps holds start (fun number => law.numbered candidate number start)
    (fun name given => law.qualified name candidate (qualified name given) start) taken

theorem NameLaw.candidate (law : NameLaw raws holds) {hint : Text} (given : raws hint)
    (registry : Registry) : holds (registry.candidateName (some hint)).1 := by
  unfold candidateName
  dsimp only
  split
  · rename_i empty
    rw [empty] at given
    exact law.positional given _
  · exact law.typed hint given

theorem plain_law : NameLaw (fun _ => True) Naming.Plain where
  typed := fun raw _ => Naming.type_name_plain raw
  positional := fun _ number =>
    Naming.Plain.append (Naming.plain_of_all (by decide) (by decide)) (Naming.digits_plain number)
  qualified := fun _ _ qualifier name => qualifier.append name.2
  numbered := fun _ number name => name.append (Naming.digits_plain number)

/-! ### The entries of a registry -/

def EntriesHave (holds : Entry → Prop) (registry : Registry) : Prop :=
  ∀ pair ∈ registry.entries, holds pair.2

def NamesHave (holds : Text → Prop) (registry : Registry) : Prop :=
  EntriesHave (fun entry => holds entry.typeName) registry

def NamesPlain (registry : Registry) : Prop :=
  ∀ pair ∈ registry.entries, Naming.Plain pair.2.typeName

variable {registry : Registry} {kept : Entry → Prop}

theorem EntriesHave.added (entries : EntriesHave kept registry) {entry : Entry}
    (new : kept entry) : EntriesHave kept (registry.add entry) := by
  intro pair held
  rcases Table.mem_put held with old | same
  · exact entries pair old
  · rw [same]
    exact new

theorem EntriesHave.seeded (entries : EntriesHave kept registry) (key : Text) (schema : Schema)
    (new : kept (declaredEntry key (Naming.uniquify (Naming.typeName key) registry.taken) schema)) :
    EntriesHave kept (registry.seed key schema).2 := by
  have declared : EntriesHave kept (registry.addDeclared key schema).2 := entries.added new
  unfold seed
  split
  · split
    · exact entries
    · exact declared
  · exact declared

theorem EntriesHave.seed_all (entries : EntriesHave kept registry) (definitions : Definitions)
    (new : ∀ definition ∈ definitions, ∀ taken,
      kept (declaredEntry definition.1 (Naming.uniquify (Naming.typeName definition.1) taken)
        definition.2)) : EntriesHave kept (seedAll definitions registry).1 := by
  induction definitions generalizing registry with
  | nil => exact entries
  | cons definition rest induction =>
      obtain ⟨first, others⟩ := List.forall_mem_cons.mp new
      exact induction (entries.seeded definition.1 definition.2 (first registry.taken)) others

theorem seeds_have (definitions : Definitions)
    (new : ∀ definition ∈ definitions, ∀ taken,
      kept (declaredEntry definition.1 (Naming.uniquify (Naming.typeName definition.1) taken)
        definition.2)) : EntriesHave kept (seeds definitions) := by
  have start : EntriesHave kept empty := List.forall_mem_nil _
  exact start.seed_all definitions new

theorem NamesHave.counted (names : NamesHave holds registry) (hint : Option Text) :
    NamesHave holds (registry.candidateName hint).2 := by
  obtain ⟨count, counted⟩ := candidate_effect registry hint
  rw [counted]
  exact names

theorem NamesHave.promoted (names : NamesHave holds registry) (law : NameLaw raws holds)
    {hint : Option Text} (candidate : holds (registry.candidateName hint).1) (schema : Schema)
    (signature : Text) : NamesHave holds (registry.registerPromoted hint schema signature).2 := by
  have named : holds (registry.registerPromoted hint schema signature).1 :=
    law.uniquified candidate _ none (by simp)
  exact (names.counted hint).added named

theorem NamesHave.inlined (names : NamesHave holds registry) (law : NameLaw raws holds)
    {hint : Option Text} (candidate : holds (registry.candidateName hint).1) (schema : Schema)
    (signature : Text) {enclosing : Entry} (owned : holds enclosing.typeName) :
    NamesHave holds (registry.registerInline hint schema signature (some enclosing)).2 := by
  have named : holds (registry.registerInline hint schema signature (some enclosing)).1 :=
    law.uniquified candidate _ (some enclosing.typeName) (by simpa using owned)
  exact (names.counted hint).added named

theorem NamesHave.resolved (names : NamesHave holds registry) (law : NameLaw raws holds)
    (threshold : Nat) (policy : Policy) {hint : Text} (given : raws hint) {enclosing : Entry}
    (named : holds enclosing.typeName) (schema : Schema) :
    NamesHave holds
      (resolve threshold policy (some hint) (some enclosing) registry schema).2.1 := by
  fun_induction resolve threshold policy (some hint) (some enclosing) registry schema with
  | case1 pointer =>
      unfold resolveReference
      dsimp only
      split <;> exact names
  | case2 properties required =>
      unfold resolveObject
      split
      · exact names
      cases policy with
      | inline =>
          dsimp only
          split
          · exact names
          · exact names.inlined law (law.candidate given registry) _ _ named
      | promote =>
          dsimp only
          split
          · exact names
          · exact names.promoted law (law.candidate given registry) _ _
  | case3 items item after notices step induction =>
      rw [step] at induction
      exact induction
  | case4 => exact names
  | case5 => exact names

theorem NamesHave.fields (names : NamesHave holds registry) (law : NameLaw raws holds)
    (context : Context) {entry : Entry} (named : holds entry.typeName) (required : List Text)
    (properties : List (Text × Schema)) (given : ∀ property ∈ properties, raws property.1)
    (used : List Text) :
    NamesHave holds (fieldsOf context entry required properties used registry).2.1 := by
  induction properties generalizing used registry with
  | nil => exact names
  | cons property rest induction =>
      obtain ⟨first, others⟩ := List.forall_mem_cons.mp given
      exact induction (names.resolved law _ _ first named _) others _

theorem NamesHave.recorded (names : NamesHave holds registry) (law : NameLaw raws holds)
    (context : Context) {entry : Entry} (named : holds entry.typeName)
    (given : ∀ property ∈ entry.schema.properties, raws property.1) :
    NamesHave holds (recordOf context entry registry).2.1 := by
  unfold recordOf
  cases shape : entry.schema with
  | object properties required =>
      rw [shape] at given
      exact names.fields law context named required properties given []
  | array | primitive | reference | unknown => exact names

/-! ### A run -/

theorem seeds_named (law : NameLaw raws holds) (definitions : Definitions)
    (given : ∀ definition ∈ definitions, raws definition.1) : NamesHave holds (seeds definitions) :=
  seeds_have definitions fun definition member taken =>
    law.uniquified (law.typed definition.1 (given definition member)) taken none (by simp)

theorem Settling.names_have {context : Context} {before worked : Registry} {key : Text}
    {entry : Entry} {record : Record} (settling : Settling context before key entry record worked)
    (law : NameLaw raws holds) (given : ∀ property ∈ entry.schema.properties, raws property.1)
    (names : NamesHave holds before) : NamesHave holds (worked.complete key record) := by
  obtain ⟨_, progress, -, begun, -⟩ := begin_effect before key settling.pending
  obtain ⟨notices, built⟩ := settling.built
  have named := names _ (Table.mem_of_get _ _ _ settling.stored)
  have start : NamesHave holds (before.begin key).2 := by
    rw [begun]
    exact names
  have recorded := start.recorded law context named given
  rw [built] at recorded
  exact recorded

theorem seeds_plain (definitions : Definitions) : NamesPlain (seeds definitions) :=
  seeds_named plain_law definitions fun _ _ => trivial

theorem Settling.names_plain {context : Context} {before worked : Registry} {key : Text}
    {entry : Entry} {record : Record} (settling : Settling context before key entry record worked)
    (plain : NamesPlain before) : NamesPlain (worked.complete key record) :=
  settling.names_have plain_law (fun _ _ => trivial) plain

end DtoForge.Resolution
