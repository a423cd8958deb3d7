import DtoForge.Document.Value
import DtoForge.Notice
import DtoForge.Registry

/-!
The type of a schema node. Resolving never fails: what has no type is unknown. A nested object
with properties is registered on the way, as a shared record or as a private one, or becomes an
opaque map when it is too large to be private.
-/

namespace DtoForge

/-- How nested objects become records. -/
inductive Policy
  | inline
  | promote
  deriving Repr, DecidableEq

def Policy.name : Policy → Text
  | .inline => "inline"
  | .promote => "promote"

namespace Resolution

/-- The settings of one run: the policy, and the largest number of properties of a private
record. -/
structure Context where
  policy : Policy
  inlineThreshold : Nat
  deriving Repr, DecidableEq

inductive ContextFault
  | threshold
  deriving Repr, DecidableEq

def ContextFault.message : ContextFault → Text
  | .threshold => "inline_threshold must be a non-negative integer."

def defaultThreshold : Nat := 3

/-- A threshold is a natural number; a truth value is no number here. -/
def Context.make (policy : Policy) (threshold : Document.Scalar) : Except ContextFault Context :=
  match threshold with
  | .int n => if n < 0 then .error .threshold else .ok ⟨policy, n.toNat⟩
  | _ => .error .threshold

/-- A type, the registry after resolving it, and what was noticed. -/
abbrev Resolved := FieldType × Registry × List Notice

def scalarType (kind : PrimitiveKind) (format : Option Text) : ScalarType :=
  match kind with
  | .string =>
    if format = some ("date" : Text) ∨ format = some ("date-time" : Text) then .dateTime
    else .string
  | .integer => .integer
  | .number => .number
  | .boolean => .boolean

/-- A reference finds its definition by the last part of its pointer only. -/
def resolveReference (registry : Registry) (pointer : Text) : Resolved :=
  let key := Schema.pointerKey pointer
  match registry.lookupReference key with
  | none => (.unknown, registry, [.unresolvedReference pointer])
  | some name =>
    (.record name, registry, if registry.isInProgress key then [.forwardReference name] else [])

/-- An object with its number of properties: without any it is a map. -/
def resolveObject (threshold : Nat) (policy : Policy) (hint : Option Text)
    (enclosing : Option Entry) (registry : Registry) (schema : Schema) (count : Nat) : Resolved :=
  if count = 0 then (.map, registry, [])
  else
    match policy with
    | .inline =>
      if threshold < count then (.map, registry, [])
      else
        let (name, registry) := registry.registerInline hint schema schema.signature enclosing
        (.record name, registry, [.inlined name])
    | .promote =>
      match registry.canonicalName schema.signature with
      | some name => (.record name, registry, [])
      | none =>
        let (name, registry) := registry.registerPromoted hint schema schema.signature
        (.record name, registry, [.promoted name])

def resolve (threshold : Nat) (policy : Policy) (hint : Option Text) (enclosing : Option Entry)
    (registry : Registry) : Schema → Resolved
  | .reference pointer => resolveReference registry pointer
  | .object properties required =>
    resolveObject threshold policy hint enclosing registry (.object properties required)
      properties.length
  | .array items =>
    let (item, registry, notices) := resolve threshold policy hint enclosing registry items
    (.list item, registry, notices)
  | .primitive kind format => (.scalar (scalarType kind format), registry, [])
  | .unknown _ => (.unknown, registry, [])

end Resolution

end DtoForge
