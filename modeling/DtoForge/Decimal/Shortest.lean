/-!
The shortest decimal text that reads back as a given binary64 number. The number is decoded to
`mantissa · 2 ^ exponent`; the reals that round to it form an interval, whose ends belong to it
exactly when the mantissa is even. Of the decimal grids with 1, 2, … 17 digits the first one with
a point in that interval is taken, and of the two neighbours of the number on it the nearer one.
All arithmetic is on naturals.
-/

namespace DtoForge.Decimal

/-- A finite positive binary64 number `mantissa · 2 ^ exponent`. `atBoundary` tells that the next
smaller number lies half as far away as the next larger one. -/
structure Binary where
  mantissa : Nat
  exponent : Int
  atBoundary : Bool
  deriving Repr, DecidableEq

/-- Decodes the 63 bits below the sign of a finite nonzero number. -/
def Binary.ofBits (bits : Nat) : Binary :=
  let field := bits / Nat.pow 2 52 % Nat.pow 2 11
  let fraction := bits % Nat.pow 2 52
  if field = 0 then ⟨fraction, -1074, false⟩
  else ⟨Nat.pow 2 52 + fraction, Int.ofNat field - 1075, fraction = 0 && 1 < field⟩

structure Digits where
  digits : Nat
  exponent : Int
  deriving Repr, DecidableEq

structure Ratio where
  num : Nat
  den : Nat

def Ratio.ofScaled (n : Nat) (base : Nat) (exponent : Int) : Ratio :=
  if 0 ≤ exponent then ⟨n * Nat.pow base exponent.toNat, 1⟩
  else ⟨n, Nat.pow base (-exponent).toNat⟩

def Ratio.shift (ratio : Ratio) (exponent : Int) : Ratio :=
  if 0 ≤ exponent then ⟨ratio.num * Nat.pow 10 exponent.toNat, ratio.den⟩
  else ⟨ratio.num, ratio.den * Nat.pow 10 (-exponent).toNat⟩

def Ratio.lt (left right : Ratio) : Bool := left.num * right.den < right.num * left.den

def Ratio.le (left right : Ratio) : Bool := !right.lt left

/-- The number of decimal digits before the point minus one, at least when the ratio is no less
than one; below one, minus the places up to the first digit that is not zero. -/
def magnitude (ratio : Ratio) : Int :=
  if ratio.den ≤ ratio.num then Int.ofNat ((toString (ratio.num / ratio.den)).length - 1)
  else
    let reaches (places : Nat) : Bool := ratio.den ≤ ratio.num * Nat.pow 10 (places + 1)
    match (List.range 400).find? reaches with
    | some places => -Int.ofNat (places + 1)
    | none => -400

/-- The neighbours of the number on the grid `10 ^ exponent`, nearer one first, the even one
first if they are equally near; kept if they lie in the interval. -/
def onGrid (value low high : Ratio) (closed : Bool) (exponent : Int) : Option Digits :=
  let scaled := value.shift (-exponent)
  let below := scaled.num / scaled.den
  let rest := scaled.num % scaled.den
  let inside (point : Nat) : Bool :=
    let spot := Ratio.ofScaled point 10 exponent
    if closed then low.le spot && spot.le high else low.lt spot && spot.lt high
  let above := below + 1
  let order :=
    if rest = 0 then [below]
    else if 2 * rest < scaled.den ∨ (2 * rest = scaled.den ∧ below % 2 = 0) then [below, above]
    else [above, below]
  (order.find? inside).map fun point => ⟨point, exponent⟩

def shortest (number : Binary) : Digits :=
  let value := Ratio.ofScaled number.mantissa 2 number.exponent
  let high := Ratio.ofScaled (2 * number.mantissa + 1) 2 (number.exponent - 1)
  let low :=
    if number.atBoundary then Ratio.ofScaled (4 * number.mantissa - 1) 2 (number.exponent - 2)
    else Ratio.ofScaled (2 * number.mantissa - 1) 2 (number.exponent - 1)
  let top := magnitude value
  let grids := (List.range 17).map fun count => top - Int.ofNat count
  match grids.findSome? (onGrid value low high (number.mantissa % 2 = 0)) with
  | some digits => digits
  | none => ⟨number.mantissa, 0⟩

/-- How a number is laid out: positional while the exponent of its first digit lies between the
bounds, and scientific with at least `exponentWidth` exponent digits outside. -/
structure Layout where
  smallestPositional : Int
  largestPositional : Int
  exponentWidth : Nat

def padLeft (width : Nat) (chars : List Char) : List Char :=
  List.replicate (width - chars.length) '0' ++ chars

def dropTrailingZeros (chars : List Char) : List Char :=
  (chars.reverse.dropWhile (· = '0')).reverse

/-- The text of digits whose first one has the exponent `lead`. -/
def Layout.render (layout : Layout) (digits : List Char) (lead : Int) : List Char :=
  if layout.smallestPositional ≤ lead ∧ lead ≤ layout.largestPositional then
    if lead < 0 then
      '0' :: '.' :: (List.replicate (-lead - 1).toNat '0' ++ digits)
    else
      let count := lead.toNat + 1
      let whole := digits.take count ++ List.replicate (count - digits.length) '0'
      let part := digits.drop count
      whole ++ '.' :: (if part.isEmpty then ['0'] else part)
  else
    let tail := digits.drop 1
    let sign := if lead < 0 then '-' else '+'
    digits.take 1 ++ (if tail.isEmpty then [] else '.' :: tail) ++
      'e' :: sign :: padLeft layout.exponentWidth (toString lead.natAbs).toList

/-- Numbers in the text of a document's keys: positional from 0.0001 up to below 10 ^ 16. -/
def numberLayout : Layout := ⟨-4, 15, 2⟩

def floatText (x : Float) : String :=
  let bits := x.toBits.toNat
  let sign := if bits / Nat.pow 2 63 = 1 then ['-'] else []
  let magnitudeBits := bits % Nat.pow 2 63
  if x.isNaN then "nan"
  else if x.isInf then String.ofList (sign ++ ['i', 'n', 'f'])
  else if magnitudeBits = 0 then String.ofList (sign ++ ['0', '.', '0'])
  else
    let result := shortest (Binary.ofBits magnitudeBits)
    let all := (toString result.digits).toList
    let lead := result.exponent + Int.ofNat all.length - 1
    String.ofList (sign ++ numberLayout.render (dropTrailingZeros all) lead)

end DtoForge.Decimal
