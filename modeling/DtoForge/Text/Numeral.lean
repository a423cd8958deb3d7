import DtoForge.Text.Blank

/-!
Whole numbers written in any decimal digits of Unicode. A numeral may have white space around
it, a sign, and single underscores between digits. Only so many decimal digits are read.
-/

namespace DtoForge.Text

/-- The code points of the digits zero; the nine code points after each are the other digits. -/
def zeroDigits : List Nat :=
  [
    0x30, 0x660, 0x6f0, 0x7c0, 0x966, 0x9e6, 0xa66, 0xae6, 0xb66, 0xbe6, 0xc66, 0xce6, 0xd66,
    0xde6, 0xe50, 0xed0, 0xf20, 0x1040, 0x1090, 0x17e0, 0x1810, 0x1946, 0x19d0, 0x1a80, 0x1a90,
    0x1b50, 0x1bb0, 0x1c40, 0x1c50, 0xa620, 0xa8d0, 0xa900, 0xa9d0, 0xa9f0, 0xaa50, 0xabf0,
    0xff10, 0x104a0, 0x10d30, 0x11066, 0x110f0, 0x11136, 0x111d0, 0x112f0, 0x11450, 0x114d0,
    0x11650, 0x116c0, 0x11730, 0x118e0, 0x11950, 0x11c50, 0x11d50, 0x11da0, 0x16a60, 0x16ac0,
    0x16b50, 0x1d7ce, 0x1d7d8, 0x1d7e2, 0x1d7ec, 0x1d7f6, 0x1e140, 0x1e2f0, 0x1e950, 0x1fbf0
  ]

def digitValue? (c : CodePoint) : Option Nat :=
  (zeroDigits.find? fun first => first ≤ c.toNat && c.toNat < first + 10).map (c.toNat - ·)

def baseDigit? (base : Nat) (c : CodePoint) : Option Nat :=
  let code := c.toNat
  let value :=
    if 'a'.toNat ≤ code ∧ code ≤ 'z'.toNat then some (code - 'a'.toNat + 10)
    else if 'A'.toNat ≤ code ∧ code ≤ 'Z'.toNat then some (code - 'A'.toNat + 10)
    else digitValue? c
  value.filter (· < base)

/-- Reads digits up to the end; an underscore may stand between two digits only. The first
argument tells if a digit stands right before. -/
def digitsFrom? (base : Nat) : Bool → Nat → List CodePoint → Option Nat
  | afterDigit, value, [] => if afterDigit then some value else none
  | afterDigit, value, c :: rest =>
    if c = '_' then if afterDigit then digitsFrom? base false value rest else none
    else
      match baseDigit? base c with
      | some digit => digitsFrom? base true (value * base + digit) rest
      | none => none

def naturalPoints? (base : Nat) (points : List CodePoint) : Option Nat :=
  digitsFrom? base false 0 points

/-- An optional sign and digits, white space around them dropped. -/
def integerPoints? (base : Nat) (points : List CodePoint) : Option Int :=
  match trimPoints isWhiteSpace points with
  | .char '-' :: rest => (naturalPoints? base rest).map fun value => -Int.ofNat value
  | .char '+' :: rest => (naturalPoints? base rest).map Int.ofNat
  | rest => (naturalPoints? base rest).map Int.ofNat

/-- Numerals with more decimal digits than this are not read. -/
def digitLimit : Nat := 4300

def digitLimitMessage (count : Nat) : Text :=
  "Exceeds the limit (" ++ toString digitLimit ++
    " digits) for integer string conversion: value has " ++ toString count ++
    " digits; use sys.set_int_max_str_digits() to increase the limit"

def digitCount (points : List CodePoint) : Nat := points.countP fun c => (digitValue? c).isSome

def integer? (text : Text) : Option Int :=
  if digitLimit < digitCount text.toList then none else integerPoints? 10 text.toList

end DtoForge.Text
