import DtoForge.Decimal.Reading
import DtoForge.Document.Yaml.Tag
import DtoForge.Document.Value
import DtoForge.Text.Lowercase
import DtoForge.Text.Numeral

/-!
The values of scalars by their tags. A scalar without tag has the form of its tag; with a tag
written out any text can occur, and what does not fit is a fault.
-/

namespace DtoForge.Document.Yaml

def withoutMarks (text : Text) : List CodePoint := text.toList.filter (· ≠ .char '_')

/-- Decimal numbers are read up to the limit of digits, those in bases that are powers of two
without any. -/
def integerOf (base : Nat) (points : List CodePoint) : Except Fault Int :=
  let count := Text.digitCount points
  if base = 10 ∧ Text.digitLimit < count then .error (.digits count)
  else
    match Text.integerPoints? base points with
    | some value => .ok value
    | none => .error (.integer base ⟨points⟩)

def sexagesimal (places : List Int) : Int := places.foldl (fun value place => value * 60 + place) 0

def unsignedInteger (points : List CodePoint) : Except Fault Int :=
  match points with
  | [] => .error .noNumber
  | [.char '0'] => .ok 0
  | .char '0' :: .char 'b' :: digits => integerOf 2 digits
  | .char '0' :: .char 'x' :: digits => integerOf 16 digits
  | .char '0' :: _ => integerOf 8 points
  | _ =>
    if points.contains ':' then
      ((Text.pieces (.char ':') points).mapM (integerOf 10)).map sexagesimal
    else integerOf 10 points

def integer (text : Text) : Except Fault Int :=
  match withoutMarks text with
  | .char '-' :: rest => (unsignedInteger rest).map (- ·)
  | .char '+' :: rest => unsignedInteger rest
  | rest => unsignedInteger rest

def decimalFloat? (chars : List Char) : Option Float :=
  let negative := chars.head? = some '-'
  let unsigned := dropSign chars
  let signed (value : Float) : Float := if negative then -value else value
  if ["inf", "infinity"].contains (String.ofList unsigned) then some (signed (1 / 0))
  else if String.ofList unsigned = "nan" then some (0 / 0)
  else
    let whole := unsigned.takeWhile isDecimal
    let rest := unsigned.dropWhile isDecimal
    let (part, rest) :=
      match rest with
      | '.' :: rest => (rest.takeWhile isDecimal, rest.dropWhile isDecimal)
      | rest => ([], rest)
    let number (exponent : Int) : Option Float :=
      if whole.isEmpty && part.isEmpty then none
      else some (Decimal.floatOfParts negative whole part exponent)
    match rest with
    | [] => number 0
    | e :: rest =>
      let digits := dropSign rest
      if (e = 'e' ∨ e = 'E') ∧ allSome isDecimal digits then
        let size := Int.ofNat (Decimal.digitsValue digits)
        number (if rest.head? = some '-' then -size else size)
      else none

def floatOfPoints (points : List CodePoint) : Except Fault Float :=
  match (Text.chars? ⟨Text.trimPoints Text.isWhiteSpace points⟩).bind decimalFloat? with
  | some value => .ok value
  | none => .error (.float ⟨points⟩)

def addPlaces : Float → Float → List Float → Float
  | value, _, [] => value
  | value, weight, place :: places => addPlaces (value + place * weight) (weight * 60) places

def unsignedFloat (points : List CodePoint) : Except Fault Float :=
  if points = Text.toList ".inf" then .ok (1 / 0)
  else if points.contains ':' then do
    let places ← (Text.pieces (.char ':') points).mapM floatOfPoints
    return addPlaces 0 1 places.reverse
  else floatOfPoints points

/-- The word for what is not a number has one value, with or without a sign. -/
def float (text : Text) : Except Fault Scalar :=
  let (negative, rest) :=
    match Text.lowerPoints (withoutMarks text) with
    | .char '-' :: rest => (true, rest)
    | .char '+' :: rest => (false, rest)
    | rest => (false, rest)
  if (withoutMarks text).isEmpty then .error .noNumber
  else if rest = Text.toList ".nan" then .ok .nan
  else (unsignedFloat rest).map fun value => .float (if negative then -value else value)

def truth (text : Text) : Except Fault Bool :=
  let word := Text.lower text
  match truthWords.find? fun entry => entry.1 == word with
  | some entry => .ok entry.2
  | none => .error (.truth word)

/-! ### Bytes -/

def base64Value? (c : Char) : Option Nat :=
  if 'A' ≤ c ∧ c ≤ 'Z' then some (c.toNat - 65)
  else if 'a' ≤ c ∧ c ≤ 'z' then some (c.toNat - 71)
  else if '0' ≤ c ∧ c ≤ '9' then some (c.toNat + 4)
  else if c = '+' then some 62
  else if c = '/' then some 63
  else none

/-- Groups of four characters with six bits each. `count` characters of the group have been read,
and `held` holds their bits that are not in a byte yet; `pads` counts the equals signs since. Other
characters are passed over, and a filled group that has been padded ends the reading. -/
def base64From : Nat → Nat → Nat → List UInt8 → List Char → Option (List UInt8)
  | count, _, _, bytes, [] => if count = 0 then some bytes.reverse else none
  | count, held, pads, bytes, c :: rest =>
    if c = '=' then
      if 2 ≤ count then
        if 4 ≤ count + pads + 1 then some bytes.reverse
        else base64From count held (pads + 1) bytes rest
      else base64From count held pads bytes rest
    else
      match base64Value? c with
      | none => base64From count held pads bytes rest
      | some bits =>
        if count = 0 then base64From 1 bits 0 bytes rest
        else if count = 1 then
          base64From 2 (bits % 16) 0 (UInt8.ofNat (held * 4 + bits / 16) :: bytes) rest
        else if count = 2 then
          base64From 3 (bits % 4) 0 (UInt8.ofNat (held * 16 + bits / 4) :: bytes) rest
        else base64From 0 0 0 (UInt8.ofNat (held * 64 + bits) :: bytes) rest

def binary (text : Text) : Except Fault (List UInt8) :=
  match text.chars?.bind fun chars =>
    if chars.all (·.toNat < 0x80) then base64From 0 0 0 [] chars else none with
  | some bytes => .ok bytes
  | none => .error .malformed

/-! ### Dates -/

def microseconds (fraction : List Char) : Nat :=
  let digits := fraction.take 6
  digitsNumber (digits ++ List.replicate (6 - digits.length) '0')

def timestamp (text : Text) : Except Fault Scalar :=
  match text.chars?.bind fun chars => timestampForm? (withoutLineFeed chars) with
  | none => .error .timestamp
  | some form =>
    let date : Date := ⟨digitsNumber form.year, digitsNumber form.month, digitsNumber form.day⟩
    let checked : Except CalendarFault Scalar :=
      match form.time with
      | none => date.check.map .date
      | some (hour, minute, second, fraction) =>
        let moment : Moment :=
          { date, hour := digitsNumber hour, minute := digitsNumber minute
            second := digitsNumber second, microsecond := microseconds fraction
            offset := form.zone }
        moment.check.map .moment
    checked.mapError .calendar

/-- The value of a scalar with a tag for scalars; other tags have none. -/
def scalarValue (tag : Tag) (text : Text) : Except Fault Scalar :=
  match tag with
  | .null => .ok .null
  | .bool => (truth text).map .bool
  | .int => (integer text).map .int
  | .float => float text
  | .binary => (binary text).map .bytes
  | .timestamp => timestamp text
  | .str => .ok (.text text)
  | _ => .error .malformed

end DtoForge.Document.Yaml
