import DtoForge.Resolution.Type

/-!
The record of a registered schema: one field for each property, in order, with identifiers that
differ from each other. Anything but an object gives a record without fields.
-/

namespace DtoForge.Resolution

/-- The fields of some properties, after the identifiers already used. -/
def fieldsOf (context : Context) (entry : Entry) (required : List Text) :
    List (Text × Schema) → List Text → Registry → List Field × Registry × List Notice
  | [], _, registry => ([], registry, [])
  | (property, schema) :: rest, used, registry =>
    let identifier := Naming.uniquify (Naming.fieldName property) used
    let (type, registry, noticed) :=
      resolve context.inlineThreshold context.policy (some property) (some entry) registry schema
    let field : Field :=
      { property, identifier, type
        required := required.contains property
        wireKey := if identifier = property then none else some property }
    let (fields, registry, later) := fieldsOf context entry required rest
      (identifier :: used) registry
    (field :: fields, registry, noticed ++ later)

def recordOf (context : Context) (entry : Entry) (registry : Registry) :
    Record × Registry × List Notice :=
  let (fields, registry, notices) :=
    match entry.schema with
    | .object properties required => fieldsOf context entry required properties [] registry
    | _ => ([], registry, [])
  (⟨entry.typeName, fields, entry.signature, entry.scope⟩, registry, notices)

end DtoForge.Resolution
