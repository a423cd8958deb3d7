import DtoForge.Text.Basic

/-!
Resolved types: the records of a run, their fields, and the type of a field. A record with a scope
is private to the shared record that the scope names.
-/

namespace DtoForge

inductive ScalarType
  | string
  | integer
  | number
  | boolean
  | dateTime
  deriving Repr, DecidableEq

inductive FieldType
  | scalar (kind : ScalarType)
  | record (name : Text)
  | list (item : FieldType)
  | map
  | unknown
  deriving Repr, DecidableEq, Inhabited

/-- A field of a record. `wireKey` is the key in the data when it differs from the identifier. -/
structure Field where
  property : Text
  identifier : Text
  type : FieldType
  required : Bool
  wireKey : Option Text
  deriving Repr, DecidableEq

structure Record where
  name : Text
  fields : List Field
  signature : Text
  scope : Option Text
  deriving Repr, DecidableEq

/-- The records of a run in the order of their discovery, and the passes that it took. -/
structure TypeGraph where
  records : List Record
  passes : Nat
  deriving Repr, DecidableEq

def Field.dataKey (field : Field) : Text := field.wireKey.getD field.identifier

def Record.isInline (record : Record) : Bool := record.scope.isSome

/-- The record whose unit a record belongs to. An empty scope counts as none. -/
def Record.host (record : Record) : Text :=
  match record.scope with
  | some scope => if scope = "" then record.name else scope
  | none => record.name

def TypeGraph.names (graph : TypeGraph) : List Text := graph.records.map (·.name)

def TypeGraph.get? (graph : TypeGraph) (name : Text) : Option Record :=
  graph.records.find? (·.name == name)

/-- The record named by a type under any number of lists. -/
def FieldType.recordName? : FieldType → Option Text
  | .record name => some name
  | .list item => item.recordName?
  | .scalar _ | .map | .unknown => none

end DtoForge
