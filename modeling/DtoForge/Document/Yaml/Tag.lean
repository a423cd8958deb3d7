import DtoForge.Document.Yaml.Scalar
import DtoForge.Text.Split

/-!
Tags, and the tag that a plain scalar has by its form alone. The forms are those of version 1.1 of
the language: numbers may have underscores, integers four bases and a sexagesimal form, and dates
are scalars of their own.
-/

namespace DtoForge.Document.Yaml

inductive Tag
  | null
  | bool
  | int
  | float
  | binary
  | timestamp
  | omap
  | pairs
  | set
  | str
  | seq
  | map
  | merge
  | value
  | other (name : String)
  deriving Repr, DecidableEq

namespace Tag

def coreHandle : String := "tag:yaml.org,2002:"

def coreTags : List (String × Tag) :=
  [("null", .null), ("bool", .bool), ("int", .int), ("float", .float), ("binary", .binary),
    ("timestamp", .timestamp), ("omap", .omap), ("pairs", .pairs), ("set", .set), ("str", .str),
    ("seq", .seq), ("map", .map), ("merge", .merge), ("value", .value)]

def ofName (name : String) : Tag :=
  match coreTags.find? fun entry => coreHandle ++ entry.1 == name with
  | some entry => entry.2
  | none => .other name

end Tag

/-! ### Forms of plain scalars -/

def isDecimal (c : Char) : Bool := '0' ≤ c && c ≤ '9'

def isDecimalOrMark (c : Char) : Bool := isDecimal c || c = '_'

def dropSign : List Char → List Char
  | '-' :: rest => rest
  | '+' :: rest => rest
  | rest => rest

def allSome (holds : Char → Bool) (chars : List Char) : Bool := !chars.isEmpty && chars.all holds

def isSexagesimal : List Char → Bool
  | [a] => isDecimal a
  | [a, b] => '0' ≤ a && a ≤ '5' && isDecimal b
  | _ => false

def isMarkedNumber (least : Char) : List Char → Bool
  | c :: rest => least ≤ c && c ≤ '9' && rest.all isDecimalOrMark
  | [] => false

def isSexagesimalNumber (least : Char) (chars : List Char) : Bool :=
  match Text.pieces ':' chars with
  | head :: place :: places =>
    isMarkedNumber least head && (place :: places).all isSexagesimal
  | _ => false

def isIntegerForm (chars : List Char) : Bool :=
  match dropSign chars with
  | ['0'] => true
  | '0' :: 'b' :: digits => allSome (fun c => c = '0' || c = '1' || c = '_') digits
  | '0' :: 'x' :: digits =>
    allSome (fun c => c = '_' || (hexDigitValue? c).isSome) digits
  | '0' :: digits => allSome (fun c => c = '_' || ('0' ≤ c && c ≤ '7')) digits
  | chars => isMarkedNumber '1' chars || isSexagesimalNumber '1' chars

def isExponentForm : List Char → Bool
  | [] => true
  | e :: sign :: digits =>
    (e = 'e' || e = 'E') && (sign = '-' || sign = '+') && allSome isDecimal digits
  | _ => false

def isFractionForm (chars : List Char) : Bool :=
  isExponentForm (chars.dropWhile isDecimalOrMark)

def isFloatForm (chars : List Char) : Bool :=
  let unsigned := dropSign chars
  let before := unsigned.takeWhile (· ≠ '.')
  match unsigned.dropWhile (· ≠ '.') with
  | _ :: after =>
    if before.isEmpty then
      let word := String.ofList after
      let signed := unsigned.length < chars.length
      ["inf", "Inf", "INF"].contains word ||
        (!signed && (["nan", "NaN", "NAN"].contains word ||
          ((after.head?.map isDecimal).getD false && isFractionForm after)))
    else
      (isMarkedNumber '0' before && isFractionForm after) ||
        (isSexagesimalNumber '0' before && after.all isDecimalOrMark)
  | [] => false

/-! ### Timestamps -/

structure TimestampForm where
  year : List Char
  month : List Char
  day : List Char
  time : Option (List Char × List Char × List Char × List Char)
  zone : Option Int

def takeDigits? (least most : Nat) (chars : List Char) : Option (List Char × List Char) :=
  let digits := (chars.take most).takeWhile isDecimal
  if least ≤ digits.length then some (digits, chars.drop digits.length) else none

def takeChar? (expected : Char) : List Char → Option (List Char)
  | c :: rest => if c = expected then some rest else none
  | [] => none

def digitsNumber (digits : List Char) : Nat :=
  digits.foldl (fun value c => value * 10 + (c.toNat - 48)) 0

def zone? (chars : List Char) : Option Int :=
  match chars with
  | ['Z'] => some 0
  | sign :: rest => do
    if sign ≠ '+' ∧ sign ≠ '-' then none
    let (hours, rest) ← takeDigits? 1 2 rest
    let minutes ←
      match rest with
      | [] => some []
      | rest => do
        let (minutes, rest) ← takeDigits? 2 2 (← takeChar? ':' rest)
        if rest.isEmpty then some minutes else none
    let size := Int.ofNat (digitsNumber hours * 60 + digitsNumber minutes)
    return if sign = '-' then -size else size
  | [] => none

def isTimeGap (c : Char) : Bool := c = ' ' || c = '\t'

/-- What separates a date from a time: a letter `t` or blanks. -/
def afterTimeMark? (chars : List Char) : Option (List Char) :=
  match chars with
  | c :: rest =>
    if c = 'T' ∨ c = 't' then some rest
    else if isTimeGap c then some (rest.dropWhile isTimeGap)
    else none
  | [] => none

def timestampForm? (chars : List Char) : Option TimestampForm := do
  let (year, rest) ← takeDigits? 4 4 chars
  let (month, rest) ← takeDigits? 1 2 (← takeChar? '-' rest)
  let (day, rest) ← takeDigits? 1 2 (← takeChar? '-' rest)
  if rest.isEmpty then return ⟨year, month, day, none, none⟩
  let (hour, rest) ← takeDigits? 1 2 (← afterTimeMark? rest)
  let (minute, rest) ← takeDigits? 2 2 (← takeChar? ':' rest)
  let (second, rest) ← takeDigits? 2 2 (← takeChar? ':' rest)
  let (fraction, rest) :=
    match rest with
    | '.' :: rest => (rest.takeWhile isDecimal, rest.dropWhile isDecimal)
    | rest => ([], rest)
  let time := some (hour, minute, second, fraction)
  if rest.isEmpty then return ⟨year, month, day, time, none⟩
  let zone ← zone? (rest.dropWhile isTimeGap)
  return ⟨year, month, day, time, some zone⟩

/-- A plain scalar is a date alone only with two digits for the month and the day. -/
def isTimestampForm (chars : List Char) : Bool :=
  match timestampForm? chars with
  | some form => form.time.isSome || (form.month.length = 2 && form.day.length = 2)
  | none => false

def truthWords : List (String × Bool) :=
  [("yes", true), ("no", false), ("true", true), ("false", false), ("on", true), ("off", false)]

def isTruthForm (text : String) : Bool :=
  truthWords.any fun (word, _) =>
    text == word || text == word.toUpper || text == word.capitalize

/-- A form admits one line feed after it, which a scalar in quotes or in a block can have. -/
def withoutLineFeed (chars : List Char) : List Char :=
  if chars.getLast? = some '\n' then chars.dropLast else chars

/-- The tag of a scalar by its form. A line feed alone is a text. -/
def formTag (text : List Char) : Tag :=
  let chars := withoutLineFeed text
  let word := String.ofList chars
  if isTruthForm word then .bool
  else if isFloatForm chars then .float
  else if isIntegerForm chars then .int
  else if word = "<<" then .merge
  else if text = [] ∨ ["~", "null", "Null", "NULL"].contains word then .null
  else if isTimestampForm chars then .timestamp
  else if word = "=" then .value
  else if ["!", "&", "*"].contains word then .other (Tag.coreHandle ++ "yaml")
  else .str

/-- No form has a surrogate. -/
def plainTag (text : Text) : Tag := (text.chars?.map formTag).getD .str

end DtoForge.Document.Yaml
