import DtoForge.Text.Basic
import DtoForge.Document.Calendar
import DtoForge.Decimal.Shortest

/-!
Decoded documents. The keys of a mapping are scalars of any kind, kept in order and pairwise
different under `Scalar.same`: numbers and truth values are compared by their numeric value,
whatever their kind. The scalar `nan` is the one that a document can name; it is the same wherever
it stands, while a `float` that is not a number is not even the same as itself.
-/

namespace DtoForge.Document

inductive Scalar
  | null
  | bool (value : Bool)
  | int (value : Int)
  | float (value : Float)
  | nan
  | text (value : Text)
  | date (value : Date)
  | moment (value : Moment)
  | bytes (value : List UInt8)
  deriving Inhabited

/-- A decoded value. A `pair` is an entry of an ordered mapping given as a list. -/
inductive Value
  | scalar (value : Scalar)
  | list (items : List Value)
  | map (entries : List (Scalar × Value))
  | set (members : List Scalar)
  | pair (first second : Value)
  deriving Inhabited

abbrev Entries := List (Scalar × Value)

namespace Value

@[match_pattern] abbrev null : Value := .scalar .null
@[match_pattern] abbrev bool (value : Bool) : Value := .scalar (.bool value)
@[match_pattern] abbrev int (value : Int) : Value := .scalar (.int value)
@[match_pattern] abbrev float (value : Float) : Value := .scalar (.float value)
@[match_pattern] abbrev text (value : Text) : Value := .scalar (.text value)

def isNull : Value → Bool
  | .null => true
  | _ => false

end Value

/-- An integer and a binary64 number are equal as reals. -/
def equalsFloat (n : Int) (x : Float) : Bool :=
  if x.isNaN || x.isInf then false
  else
    let bits := x.toBits.toNat
    let number := Decimal.Binary.ofBits (bits % Nat.pow 2 63)
    let size : Int := if bits / Nat.pow 2 63 = 1 then -number.mantissa else number.mantissa
    if 0 ≤ number.exponent then n == size * Int.pow 2 number.exponent.toNat
    else n * Int.pow 2 (-number.exponent).toNat == size

namespace Scalar

/-- The integer that a truth value or an integer stands for. -/
def whole? : Scalar → Option Int
  | .bool value => some (if value then 1 else 0)
  | .int value => some value
  | _ => none

/-- Two keys are the same key of a mapping. -/
def same (left right : Scalar) : Bool :=
  match left, right with
  | .null, .null => true
  | .nan, .nan => true
  | .text left, .text right => left == right
  | .date left, .date right => left == right
  | .moment left, .moment right => left.same right
  | .bytes left, .bytes right => left == right
  | .float left, .float right => left == right
  | .float left, right => (right.whole?.map (equalsFloat · left)).getD false
  | left, .float right => (left.whole?.map (equalsFloat · right)).getD false
  | left, right =>
    match left.whole?, right.whole? with
    | some left, some right => left == right
    | _, _ => false

end Scalar

namespace Entries

def get? (entries : Entries) (name : Text) : Option Value :=
  (entries.find? fun entry => match entry.1 with | .text key => key == name | _ => false).map (·.2)

def present? (entries : Entries) (name : Text) : Option Value :=
  (entries.get? name).filter (!·.isNull)

def contains (entries : Entries) (name : Text) : Bool := (entries.get? name).isSome

/-- Binds a key: a key that is already there keeps its place and its spelling. -/
def put (entries : Entries) (key : Scalar) (value : Value) : Entries :=
  match entries with
  | [] => [(key, value)]
  | (other, old) :: rest =>
    if other.same key then (other, value) :: rest else (other, old) :: put rest key value

def ofList (pairs : Entries) : Entries :=
  pairs.foldl (fun entries pair => put entries pair.1 pair.2) []

end Entries

end DtoForge.Document
