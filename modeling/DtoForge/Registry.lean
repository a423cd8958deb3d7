import DtoForge.Naming
import DtoForge.Record
import DtoForge.Schema.Signature

/-!
The registry of one run: the schemas discovered so far, the names given to them, and the records
built from them. Keys are declared names or names made up on the way. Nothing is ever removed; an
entry is pending until a record has been completed under its key.
-/

namespace DtoForge

/-- A discovered schema. A scope names the shared record that the entry is private to. -/
structure Entry where
  key : Text
  typeName : Text
  schema : Schema
  signature : Text
  scope : Option Text

def Entry.host (entry : Entry) : Text :=
  match entry.scope with
  | some scope => if scope = "" then entry.typeName else scope
  | none => entry.typeName

structure Registry where
  entries : Table Entry := []
  declaredNames : Table Text := []
  namesBySignature : Table Text := []
  recordsByKey : Table Record := []
  processed : List Text := []
  inProgress : List Text := []
  taken : List Text := []
  positionalCount : Nat := 0

inductive RegistryFault
  | alreadyProcessed (key : Text)
  | noEntry (key : Text)
  deriving Repr, DecidableEq

/-- A key without entry is reported by itself. -/
def RegistryFault.message : RegistryFault → Text
  | .alreadyProcessed key => "Schema key already processed: " ++ key
  | .noEntry key => key

namespace Registry

def empty : Registry := {}

def canonicalName (registry : Registry) (signature : Text) : Option Text :=
  registry.namesBySignature.get? signature

/-- The type name of a declared key. Names made up for nested objects are no declared keys. -/
def lookupReference (registry : Registry) (key : Text) : Option Text :=
  registry.declaredNames.get? key

def hasEntry (registry : Registry) (key : Text) : Bool := registry.entries.contains key

def entry (registry : Registry) (key : Text) : Except RegistryFault Entry :=
  match registry.entries.get? key with
  | some entry => .ok entry
  | none => .error (.noEntry key)

def isInProgress (registry : Registry) (key : Text) : Bool := registry.inProgress.contains key

def pendingKeys (registry : Registry) : List Text :=
  registry.entries.keys.filter fun key => !registry.processed.contains key

def recordFor (registry : Registry) (key : Text) : Option Record :=
  registry.recordsByKey.get? key

def records (registry : Registry) : List Record :=
  registry.entries.keys.filterMap registry.recordFor

def add (registry : Registry) (entry : Entry) : Registry :=
  { registry with
    entries := registry.entries.put entry.key entry
    taken := entry.typeName :: entry.key :: registry.taken }

def share (registry : Registry) (signature name : Text) : Registry :=
  { registry with namesBySignature := registry.namesBySignature.put signature name }

def declareName (registry : Registry) (key name : Text) : Registry :=
  { registry with declaredNames := registry.declaredNames.put key name }

def take (registry : Registry) (name : Text) : Registry :=
  { registry with taken := name :: registry.taken }

/-- The name that a new shared definition gets, and its registration under the key. -/
def addDeclared (registry : Registry) (key : Text) (schema : Schema) : Text × Registry :=
  let name := Naming.uniquify (Naming.typeName key) registry.taken
  (name, (registry.add ⟨key, name, schema, schema.signature, none⟩).declareName key name)

/-- Registers a declared definition. An object with the shape of an earlier shared one becomes
another name for it. -/
def seed (registry : Registry) (key : Text) (schema : Schema) : Text × Registry :=
  if schema.hasProperties then
    match registry.canonicalName schema.signature with
    | some canonical => (canonical, (registry.declareName key canonical).take key)
    | none =>
      let (name, registry) := registry.addDeclared key schema
      (name, registry.share schema.signature name)
  else registry.addDeclared key schema

/-- The name suggested by a hint; without one, a name made from a running number. -/
def candidateName (registry : Registry) (hint : Option Text) : Text × Registry :=
  let positional : Text × Registry :=
    let number := registry.positionalCount + 1
    ("InlineRecord" ++ toString number, { registry with positionalCount := number })
  match hint with
  | none => positional
  | some hint => if hint = "" then positional else (Naming.typeName hint, registry)

def registerPromoted (registry : Registry) (hint : Option Text) (schema : Schema)
    (signature : Text) : Text × Registry :=
  let (candidate, registry) := registry.candidateName hint
  let name := Naming.uniquify candidate registry.taken
  (name, (registry.add ⟨name, name, schema, signature, none⟩).share signature name)

def registerInline (registry : Registry) (hint : Option Text) (schema : Schema)
    (signature : Text) (enclosing : Option Entry) : Text × Registry :=
  let (candidate, registry) := registry.candidateName hint
  let name := Naming.uniquify candidate registry.taken (enclosing.map (·.typeName))
  (name, registry.add ⟨name, name, schema, signature, enclosing.map (·.host)⟩)

/-- Starts the work on a key. A processed key is refused and changes nothing; a key without entry
is refused after it has been marked as in progress. -/
def begin (registry : Registry) (key : Text) : Except RegistryFault Entry × Registry :=
  if registry.processed.contains key then (.error (.alreadyProcessed key), registry)
  else
    let marked :=
      if registry.isInProgress key then registry
      else { registry with inProgress := key :: registry.inProgress }
    (marked.entry key, marked)

def complete (registry : Registry) (key : Text) (record : Record) : Registry :=
  { registry with
    inProgress := registry.inProgress.filter (· ≠ key)
    recordsByKey := registry.recordsByKey.put key record
    processed :=
      if registry.processed.contains key then registry.processed else key :: registry.processed }

end Registry

end DtoForge
