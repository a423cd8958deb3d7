import DtoForge.Table

/-!
Schema nodes. An object keeps its properties in the order of the document. Its required names stand
for a set; the readers hold them as a strictly ascending list, so that equal sets are equal lists.
-/

namespace DtoForge

inductive PrimitiveKind
  | string
  | integer
  | number
  | boolean
  deriving Repr, DecidableEq

inductive Schema
  | object (properties : List (Text × Schema)) (required : List Text)
  | array (items : Schema)
  | primitive (kind : PrimitiveKind) (format : Option Text)
  | reference (pointer : Text)
  | unknown (tag : Option Text)
  deriving Repr

abbrev Definitions := Table Schema

namespace PrimitiveKind

def name : PrimitiveKind → Text
  | .string => "string"
  | .integer => "integer"
  | .number => "number"
  | .boolean => "boolean"

def all : List PrimitiveKind := [.string, .integer, .number, .boolean]

def ofName? (name : Text) : Option PrimitiveKind := all.find? (·.name == name)

end PrimitiveKind

def insertName (name : Text) : List Text → List Text
  | [] => [name]
  | other :: rest =>
    if name < other then name :: other :: rest
    else if name = other then other :: rest
    else other :: insertName name rest

def nameSet (names : List Text) : List Text := names.foldr insertName []

theorem mem_insert_name (name other : Text) (names : List Text) :
    other ∈ insertName name names ↔ other = name ∨ other ∈ names := by
  induction names with
  | nil => simp [insertName]
  | cons head rest induction =>
      unfold insertName
      split
      · simp
      · split
        · rename_i same
          subst same
          simp
        · simp only [List.mem_cons, induction]
          exact or_left_comm

theorem mem_name_set (name : Text) (names : List Text) :
    name ∈ nameSet names ↔ name ∈ names := by
  induction names with
  | nil => simp [nameSet]
  | cons head rest induction =>
      have step : nameSet (head :: rest) = insertName head (nameSet rest) := rfl
      rw [step, mem_insert_name, induction, List.mem_cons]

namespace Schema

/-- The text after the last slash of a pointer, by which a reference finds its definition. -/
def pointerKey (pointer : Text) : Text :=
  ⟨(pointer.toList.reverse.takeWhile (· ≠ .char '/')).reverse⟩

/-- An object that declares at least one property: only these become records of their own. -/
def hasProperties : Schema → Bool
  | .object (_ :: _) _ => true
  | _ => false

mutual

def size : Schema → Nat
  | .object properties _ => 1 + sizeSum properties
  | .array items => 1 + items.size
  | .primitive _ _ | .reference _ | .unknown _ => 1

def sizeSum : List (Text × Schema) → Nat
  | [] => 0
  | (_, schema) :: rest => schema.size + sizeSum rest

end

theorem size_pos (schema : Schema) : 0 < schema.size := by
  cases schema <;> rw [size] <;> omega

end Schema

end DtoForge
