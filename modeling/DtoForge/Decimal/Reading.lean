/-!
Decimal literals to binary64. Rounding is to the nearest number; exponents so large or so small
that the digits cannot matter give infinity or zero at once, so reading never builds a huge power.
-/

namespace DtoForge.Decimal

/-- The number `digits · 10 ^ exponent`, where `count` is the number of digits. -/
def floatOf (digits : Nat) (exponent : Int) : Float :=
  if digits = 0 then 0
  else
    let lead := exponent + Int.ofNat (toString digits).length
    if 400 < lead then 1 / 0
    else if lead < -400 then 0
    else if 0 ≤ exponent then Float.ofScientific (digits * Nat.pow 10 exponent.toNat) false 0
    else Float.ofScientific digits true (-exponent).toNat

def digitsValue (digits : List Char) : Nat :=
  digits.foldl (fun value c => value * 10 + (c.toNat - '0'.toNat)) 0

def floatOfParts (negative : Bool) (whole part : List Char) (exponent : Int) : Float :=
  let size := floatOf (digitsValue (whole ++ part)) (exponent - Int.ofNat part.length)
  if negative then -size else size

end DtoForge.Decimal
