import DtoForge.Decimal.Reading
import DtoForge.Document.Value
import DtoForge.Text.Numeral

/-!
JSON texts to values. The reader accepts `NaN`, `Infinity` and `-Infinity`; a repeated key keeps
its first place and takes its last value. A fault is reported at a character offset together with
the line and the column there. An integer with too many digits ends the reading, too, but is no
fault of the text.

Every reading step returns the remaining characters. The reader of nested values is bounded by
twice the length of the text: each bracket and each comma costs one character and at most two
steps.
-/

namespace DtoForge.Document.Json

inductive Cause
  | value
  | propertyName
  | colon
  | comma
  | extraData
  | openString
  | controlCharacter
  | escape
  | unicodeEscape
  | byteOrderMark
  deriving Repr, DecidableEq

def Cause.text : Cause → Text
  | .value => "Expecting value"
  | .propertyName => "Expecting property name enclosed in double quotes"
  | .colon => "Expecting ':' delimiter"
  | .comma => "Expecting ',' delimiter"
  | .extraData => "Extra data"
  | .openString => "Unterminated string starting at"
  | .controlCharacter => "Invalid control character at"
  | .escape => "Invalid \\escape"
  | .unicodeEscape => "Invalid \\uXXXX escape"
  | .byteOrderMark => "Unexpected UTF-8 BOM (decode using utf-8-sig)"

/-- What ends a reading: a cause with the number of characters from the offending one to the end
of the text, or an integer with so many digits. -/
inductive Stop
  | offence (cause : Cause) (left : Nat)
  | digits (count : Nat)
  deriving Repr, DecidableEq

/-- Lines and columns are counted from one. -/
inductive Fault
  | offence (cause : Cause) (line column offset : Nat)
  | digits (count : Nat)
  deriving Repr, DecidableEq

def Fault.message : Fault → Text
  | .offence cause line column offset =>
    cause.text ++ ": line " ++ toString line ++ " column " ++ toString column ++ " (char " ++
      toString offset ++ ")"
  | .digits count => Text.digitLimitMessage count

/-- Locates an offset: the line is counted in line feeds, the column from the last of them. -/
def Fault.at (text : List Char) (cause : Cause) (offset : Nat) : Fault :=
  let before := text.take offset
  .offence cause (before.count '\n' + 1) ((before.reverse.takeWhile (· ≠ '\n')).length + 1) offset

abbrev Step (α : Type) := Except Stop (α × List Char)

def fail {α : Type} (cause : Cause) (rest : List Char) : Step α :=
  .error (.offence cause rest.length)

def isSpace (c : Char) : Bool := c = ' ' || c = '\t' || c = '\n' || c = '\r'

def skipSpace (chars : List Char) : List Char := chars.dropWhile isSpace

def hexValue? (c : Char) : Option Nat :=
  if '0' ≤ c ∧ c ≤ '9' then some (c.toNat - 48)
  else if 'a' ≤ c ∧ c ≤ 'f' then some (c.toNat - 87)
  else if 'A' ≤ c ∧ c ≤ 'F' then some (c.toNat - 55)
  else none

def hexFour? : List Char → Option (Nat × List Char)
  | a :: b :: c :: d :: next :: rest => do
    let a ← hexValue? a
    let b ← hexValue? b
    let c ← hexValue? c
    let d ← hexValue? d
    return (((a * 16 + b) * 16 + c) * 16 + d, next :: rest)
  | _ => none

def simpleEscape? : Char → Option Char
  | '"' => some '"'
  | '\\' => some '\\'
  | '/' => some '/'
  | 'b' => some '\x08'
  | 'f' => some '\x0c'
  | 'n' => some '\n'
  | 'r' => some '\r'
  | 't' => some '\t'
  | _ => none

def lowSurrogate? : List Char → Option (Nat × List Char)
  | '\\' :: 'u' :: rest => (hexFour? rest).filter fun read => 0xdc00 ≤ read.1 && read.1 < 0xe000
  | _ => none

/-- The code point of an escape whose four digits have been read, together with what follows. A
high surrogate takes the low one after it. -/
def unicodePoint (code : Nat) (rest : List Char) : CodePoint × List Char :=
  if 0xd800 ≤ code && code < 0xdc00 then
    match lowSurrogate? rest with
    | some (low, rest) =>
      (.char (Char.ofNat (0x10000 + (code - 0xd800) * 0x400 + (low - 0xdc00))), rest)
    | none => (.ofNat code, rest)
  else (.ofNat code, rest)

/-- The content of a string up to its closing quote; `start` is the number of characters from the
opening quote to the end of the text, `limit` bounds the characters read. -/
def stringFrom (start : Nat) : Nat → List CodePoint → List Char → Step Text
  | 0, _, _ => .error (.offence .openString start)
  | _ + 1, _, [] => .error (.offence .openString start)
  | limit + 1, read, c :: rest =>
    if c = '"' then .ok (⟨read.reverse⟩, rest)
    else if c = '\\' then
      match rest with
      | [] => .error (.offence .openString start)
      | 'u' :: digits =>
        match hexFour? digits with
        | some (code, rest) =>
          let (point, rest) := unicodePoint code rest
          stringFrom start limit (point :: read) rest
        | none => fail .unicodeEscape rest
      | e :: rest' =>
        match simpleEscape? e with
        | some char => stringFrom start limit (char :: read) rest'
        | none => fail .escape (c :: rest)
    else if c.toNat < 0x20 then fail .controlCharacter (c :: rest)
    else stringFrom start limit (c :: read) rest

def string (rest : List Char) : Step Text := stringFrom (rest.length + 1) (rest.length + 1) [] rest

def isDigit (c : Char) : Bool := '0' ≤ c && c ≤ '9'

def wholeDigits? (chars : List Char) : Option (List Char × List Char) :=
  match chars with
  | '0' :: rest => some (['0'], rest)
  | c :: _ => if isDigit c then some (chars.takeWhile isDigit, chars.dropWhile isDigit) else none
  | [] => none

def fraction? : List Char → Option (List Char × List Char)
  | '.' :: c :: rest =>
    if isDigit c then some ((c :: rest).takeWhile isDigit, (c :: rest).dropWhile isDigit) else none
  | _ => none

def exponentDigits? (negative : Bool) (chars : List Char) : Option (Int × List Char) :=
  let digits := chars.takeWhile isDigit
  if digits.isEmpty then none
  else
    let size := Int.ofNat (Decimal.digitsValue digits)
    some (if negative then -size else size, chars.dropWhile isDigit)

def exponent? : List Char → Option (Int × List Char)
  | e :: rest =>
    if e = 'e' ∨ e = 'E' then
      match rest with
      | '-' :: rest => exponentDigits? true rest
      | '+' :: rest => exponentDigits? false rest
      | rest => exponentDigits? false rest
    else none
  | [] => none

structure Numeral where
  negative : Bool
  whole : List Char
  part : Option (List Char)
  exponent : Option Int

def numeral? (chars : List Char) : Option (Numeral × List Char) := do
  let (negative, chars) :=
    match chars with
    | '-' :: rest => (true, rest)
    | chars => (false, chars)
  let (whole, rest) ← wholeDigits? chars
  let part := fraction? rest
  let rest := (part.map (·.2)).getD rest
  let exponent := exponent? rest
  let rest := (exponent.map (·.2)).getD rest
  return (⟨negative, whole, part.map (·.1), exponent.map (·.1)⟩, rest)

def number (chars : List Char) : Step Scalar :=
  match numeral? chars with
  | none => fail .value chars
  | some (⟨negative, whole, none, none⟩, rest) =>
    if Text.digitLimit < whole.length then .error (.digits whole.length)
    else
      let size := Int.ofNat (Decimal.digitsValue whole)
      .ok (.int (if negative then -size else size), rest)
  | some (⟨negative, whole, part, exponent⟩, rest) =>
    .ok (.float (Decimal.floatOfParts negative whole (part.getD []) (exponent.getD 0)), rest)

def words : List (String × Scalar) :=
  [("null", .null), ("true", .bool true), ("false", .bool false), ("NaN", .nan),
    ("Infinity", .float (1 / 0)), ("-Infinity", .float (-1 / 0))]

def dropWord? (word chars : List Char) : Option (List Char) :=
  if word.isPrefixOf chars then some (chars.drop word.length) else none

def word? (chars : List Char) : Option (Scalar × List Char) :=
  words.findSome? fun (word, value) => (dropWord? word.toList chars).map (value, ·)

mutual

def value : Nat → List Char → Step Value
  | 0, chars => fail .value chars
  | limit + 1, chars =>
    match chars with
    | '"' :: rest => (string rest).map fun (text, rest) => (.text text, rest)
    | '[' :: rest =>
      match skipSpace rest with
      | ']' :: rest => .ok (.list [], rest)
      | rest => (items limit rest).map fun (items, rest) => (.list items, rest)
    | c :: rest =>
      if c = '\x7b' then
        match skipSpace rest with
        | [] => fail .propertyName []
        | d :: rest =>
          if d = '\x7d' then .ok (.map [], rest)
          else (members limit (d :: rest)).map fun (entries, rest) =>
            (.map (Entries.ofList entries), rest)
      else
        match word? chars with
        | some (scalar, rest) => .ok (.scalar scalar, rest)
        | none => (number chars).map fun (scalar, rest) => (.scalar scalar, rest)
    | [] => fail .value []

def items : Nat → List Char → Except Stop (List Value × List Char)
  | 0, chars => fail .value chars
  | limit + 1, chars => do
    let (item, rest) ← value limit chars
    match skipSpace rest with
    | ']' :: rest => return ([item], rest)
    | ',' :: rest =>
      let (others, rest) ← items limit (skipSpace rest)
      return (item :: others, rest)
    | rest => fail .comma rest

def members : Nat → List Char → Except Stop (Entries × List Char)
  | 0, chars => fail .propertyName chars
  | limit + 1, chars => do
    let (name, rest) ←
      match chars with
      | '"' :: rest => string rest
      | chars => fail .propertyName chars
    let rest ←
      match skipSpace rest with
      | ':' :: rest => pure (skipSpace rest)
      | rest => throw (.offence .colon rest.length)
    let (item, rest) ← value limit rest
    match skipSpace rest with
    | [] => fail .comma []
    | c :: rest =>
      if c = '\x7d' then return ([(.text name, item)], rest)
      else if c = ',' then
        let (others, rest) ← members limit (skipSpace rest)
        return ((.text name, item) :: others, rest)
      else fail .comma (c :: rest)

end

def document (chars : List Char) : Except Stop Value := do
  if chars.head? = some '\ufeff' then .error (.offence .byteOrderMark chars.length)
  let (result, rest) ← value (2 * chars.length + 2) (skipSpace chars)
  match skipSpace rest with
  | [] => return result
  | rest => .error (.offence .extraData rest.length)

def decode (text : String) : Except Fault Value :=
  let chars := text.toList
  (document chars).mapError fun
    | .offence cause left => .at chars cause (chars.length - left)
    | .digits count => .digits count

end DtoForge.Document.Json
