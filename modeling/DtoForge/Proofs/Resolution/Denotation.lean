import DtoForge.Proofs.Registry.Consistency
import DtoForge.Proofs.Schema.Shape
import DtoForge.Resolution.Graph

/-!
What resolving a schema gives. A type denotes a schema relative to a registry: named types are
justified by what the registry holds under the name. Resolving either finds such a type and leaves
the registry alone, or registers the one object that lies under the arrays of the schema. A type
keeps denoting its schema while the registry grows.
-/

namespace DtoForge.Resolution

open Registry

def Context.scopeIn (context : Context) (enclosing : Entry) : Option Text :=
  match context.policy with
  | .inline => some enclosing.host
  | .promote => none

def nestedEntry (context : Context) (enclosing : Entry) (nested : Schema) (name : Text) : Entry :=
  ⟨name, name, nested, nested.signature, context.scopeIn enclosing⟩

/-- The types that may stand for a schema in a field of the enclosing entry's record. -/
inductive Denotes (context : Context) (enclosing : Entry) (registry : Registry) :
    Schema → FieldType → Prop
  | scalar (kind : PrimitiveKind) (format : Option Text) :
      Denotes context enclosing registry (.primitive kind format) (.scalar (scalarType kind format))
  | unknown (tag : Option Text) : Denotes context enclosing registry (.unknown tag) .unknown
  | list {items : Schema} {item : FieldType}
      (inner : Denotes context enclosing registry items item) :
      Denotes context enclosing registry (.array items) (.list item)
  | dangling {pointer : Text}
      (missing : registry.lookupReference (Schema.pointerKey pointer) = none) :
      Denotes context enclosing registry (.reference pointer) .unknown
  | reference {pointer name : Text}
      (found : registry.lookupReference (Schema.pointerKey pointer) = some name) :
      Denotes context enclosing registry (.reference pointer) (.record name)
  | bare (required : List Text) : Denotes context enclosing registry (.object [] required) .map
  | oversize {properties : List (Text × Schema)} {required : List Text}
      (policy : context.policy = .inline) (large : context.inlineThreshold < properties.length) :
      Denotes context enclosing registry (.object properties required) .map
  | inlined {properties : List (Text × Schema)} {required : List Text} {name : Text}
      (policy : context.policy = .inline) (small : properties.length ≤ context.inlineThreshold)
      (shaped : properties ≠ [])
      (held : (name, nestedEntry context enclosing (.object properties required) name) ∈
        registry.entries) :
      Denotes context enclosing registry (.object properties required) (.record name)
  | promoted {properties : List (Text × Schema)} {required : List Text} {name : Text}
      (policy : context.policy = .promote) (shaped : properties ≠ [])
      (found : registry.canonicalName (Schema.object properties required).signature = some name) :
      Denotes context enclosing registry (.object properties required) (.record name)

/-- What a registry keeps while fields are resolved. -/
structure Grown (before after : Registry) : Prop where
  entries : before.entries <+: after.entries
  declared : after.declaredNames = before.declaredNames
  canonical : ∀ signature name,
    before.canonicalName signature = some name → after.canonicalName signature = some name

theorem Grown.refl (registry : Registry) : Grown registry registry :=
  ⟨List.prefix_refl _, rfl, fun _ _ found => found⟩

theorem Grown.trans {before middle after : Registry} (first : Grown before middle)
    (second : Grown middle after) : Grown before after where
  entries := first.entries.trans second.entries
  declared := second.declared.trans first.declared
  canonical signature name found := second.canonical signature name (first.canonical _ _ found)

theorem Grown.lookup_reference {before after : Registry} (grown : Grown before after)
    (key : Text) : after.lookupReference key = before.lookupReference key := by
  rw [lookupReference, lookupReference, grown.declared]

theorem Denotes.mono {context : Context} {enclosing : Entry} {before after : Registry}
    {schema : Schema} {type : FieldType} (grown : Grown before after)
    (denotes : Denotes context enclosing before schema type) :
    Denotes context enclosing after schema type := by
  induction denotes with
  | scalar kind format => exact .scalar kind format
  | unknown tag => exact .unknown tag
  | list inner induction => exact .list induction
  | dangling missing => exact .dangling ((grown.lookup_reference _).trans missing)
  | reference found => exact .reference ((grown.lookup_reference _).trans found)
  | bare required => exact .bare required
  | oversize policy large => exact .oversize policy large
  | inlined policy small shaped held =>
      exact .inlined policy small shaped (grown.entries.subset held)
  | promoted policy shaped found => exact .promoted policy shaped (grown.canonical _ _ found)

/-- Everything that registering a nested object does. -/
structure Registration (context : Context) (enclosing : Entry) (nested : Schema) (name : Text)
    (before after : Registry) : Prop where
  shaped : nested.hasProperties = true
  fresh : name ∉ before.taken
  entries : after.entries = before.entries ++ [(name, nestedEntry context enclosing nested name)]
  taken : after.taken = name :: name :: before.taken
  declared : after.declaredNames = before.declaredNames
  processed : after.processed = before.processed
  inProgress : after.inProgress = before.inProgress
  recorded : after.recordsByKey = before.recordsByKey
  shared :
    (context.policy = .inline ∧ nested.properties.length ≤ context.inlineThreshold ∧
      after.namesBySignature = before.namesBySignature) ∨
    (context.policy = .promote ∧ before.canonicalName nested.signature = none ∧
      after.namesBySignature = before.namesBySignature.put nested.signature name)
  consistent : Consistent after

theorem Registration.grown {context : Context} {enclosing : Entry} {nested : Schema}
    {name : Text} {before after : Registry}
    (registration : Registration context enclosing nested name before after) :
    Grown before after where
  entries := by
    rw [registration.entries]
    exact List.prefix_append _ _
  declared := registration.declared
  canonical := by
    intro signature other found
    rcases registration.shared with ⟨-, -, same⟩ | ⟨-, absent, put⟩
    · rw [canonicalName, same]
      exact found
    · have differ : signature ≠ nested.signature := by
        rintro rfl
        rw [absent] at found
        cases found
      rw [canonicalName, put, Table.get_put_of_ne _ _ _ _ differ]
      exact found

/-- How resolving a schema can end. -/
inductive Outcome (context : Context) (enclosing : Entry) (before : Registry) (schema : Schema)
    (type : FieldType) (after : Registry) : Prop
  | settled (same : after = before) (denotes : Denotes context enclosing before schema type)
  | registered {name : Text}
      (registration : Registration context enclosing schema.core name before after)
      (named : type.recordName? = some name)
      (denotes : Denotes context enclosing after schema type)

theorem registration_inlined {context : Context} {registry : Registry} (sound : Consistent registry)
    (hint : Option Text) (enclosing : Entry) (nested : Schema) (policy : context.policy = .inline)
    (shaped : nested.hasProperties = true)
    (small : nested.properties.length ≤ context.inlineThreshold) :
    let registered := registry.registerInline hint nested nested.signature (some enclosing)
    Registration context enclosing nested registered.1 registry registered.2 := by
  intro registered
  have consistent : Consistent registered.2 := sound.inlined hint nested _ _
  obtain ⟨name, count, fresh, shape⟩ :=
    inline_effect registry hint nested nested.signature (some enclosing)
  have scope : context.scopeIn enclosing = some enclosing.host := by
    simp [Context.scopeIn, policy]
  have made : registered = _ := shape
  rw [made] at consistent ⊢
  constructor
  case shaped => exact shaped
  case fresh => exact fresh
  case entries =>
    have grown := add_entries { registry with positionalCount := count }
      ⟨name, name, nested, nested.signature, some enclosing.host⟩ (sound.unowned_of_fresh fresh)
    rw [nestedEntry, scope]
    exact grown
  case shared => exact Or.inl ⟨policy, small, rfl⟩
  case consistent => exact consistent
  case taken | declared | processed | inProgress | recorded => rfl

theorem registration_promoted {context : Context} {registry : Registry}
    (sound : Consistent registry) (hint : Option Text) (enclosing : Entry) (nested : Schema)
    (policy : context.policy = .promote) (shaped : nested.hasProperties = true)
    (absent : registry.canonicalName nested.signature = none) :
    let registered := registry.registerPromoted hint nested nested.signature
    Registration context enclosing nested registered.1 registry registered.2 := by
  intro registered
  have consistent : Consistent registered.2 := sound.promoted hint nested _
  obtain ⟨name, count, fresh, shape⟩ := promoted_effect registry hint nested nested.signature
  have scope : context.scopeIn enclosing = none := by
    simp [Context.scopeIn, policy]
  have made : registered = _ := shape
  rw [made] at consistent ⊢
  constructor
  case shaped => exact shaped
  case fresh => exact fresh
  case entries =>
    have grown := add_entries { registry with positionalCount := count }
      ⟨name, name, nested, nested.signature, none⟩ (sound.unowned_of_fresh fresh)
    rw [nestedEntry, scope]
    exact grown
  case shared => exact Or.inr ⟨policy, absent, rfl⟩
  case consistent => exact consistent
  case taken | declared | processed | inProgress | recorded => rfl

theorem nested_object_denotes {context : Context} {enclosing : Entry} {before after : Registry}
    {properties : List (Text × Schema)} {required : List Text} {name : Text}
    (registration :
      Registration context enclosing (.object properties required) name before after) :
    Denotes context enclosing after (.object properties required) (.record name) := by
  have shaped := (Schema.has_properties_iff properties required).mp registration.shaped
  rcases registration.shared with ⟨policy, small, -⟩ | ⟨policy, -, put⟩
  · refine .inlined policy small shaped ?_
    rw [registration.entries]
    simp
  · refine .promoted policy shaped ?_
    rw [canonicalName, put, Table.get_put_self]

theorem resolve_object_outcome (context : Context) {registry : Registry}
    (sound : Consistent registry) (hint : Option Text) (enclosing : Entry)
    (properties : List (Text × Schema)) (required : List Text) :
    let result := resolveObject context.inlineThreshold context.policy hint (some enclosing)
      registry (.object properties required) properties.length
    Outcome context enclosing registry (.object properties required) result.1 result.2.1 := by
  unfold resolveObject
  split
  · rename_i none
    have bare : properties = [] := List.length_eq_zero_iff.mp none
    subst bare
    exact .settled rfl (.bare required)
  rename_i some
  have nonempty : properties ≠ [] := fun bare => some (by simp [bare])
  have shaped := (Schema.has_properties_iff properties required).mpr nonempty
  cases policy : context.policy with
  | inline =>
      dsimp only
      split
      · rename_i large
        exact .settled rfl (.oversize policy large)
      · rename_i small
        have registration := registration_inlined sound hint enclosing _ policy shaped
          (Nat.le_of_not_lt small)
        exact .registered registration rfl (nested_object_denotes registration)
  | promote =>
      dsimp only
      split
      · rename_i name found
        exact .settled rfl (.promoted policy nonempty found)
      · rename_i absent
        have registration := registration_promoted sound hint enclosing _ policy shaped absent
        exact .registered registration rfl (nested_object_denotes registration)

theorem resolve_outcome (context : Context) {registry : Registry} (sound : Consistent registry)
    (hint : Option Text) (enclosing : Entry) (schema : Schema) :
    let result :=
      resolve context.inlineThreshold context.policy hint (some enclosing) registry schema
    Outcome context enclosing registry schema result.1 result.2.1 := by
  fun_induction resolve context.inlineThreshold context.policy hint (some enclosing) registry schema
    with
  | case1 pointer =>
      unfold resolveReference
      dsimp only
      split
      · rename_i missing
        exact .settled rfl (.dangling missing)
      · rename_i name found
        exact .settled rfl (.reference found)
  | case2 properties required => exact resolve_object_outcome context sound hint enclosing _ _
  | case3 items item after notices step induction =>
      rw [step] at induction
      cases induction with
      | settled same denotes => exact .settled same (.list denotes)
      | registered registration named denotes =>
          exact .registered registration named (.list denotes)
  | case4 kind format => exact .settled rfl (.scalar kind format)
  | case5 tag => exact .settled rfl (.unknown tag)

end DtoForge.Resolution
