import DtoForge.Text.Printable

/-!
Quoted spellings of texts and of byte strings, as they appear inside messages and inside the
spelling of a list. Single quotes are preferred; double quotes are taken when the content holds
a single quote and no double one.
-/

namespace DtoForge.Text

def hexDigit (n : Nat) : Char := if n < 10 then Char.ofNat (48 + n) else Char.ofNat (87 + n)

/-- The last `width` hexadecimal digits of a number, in lower case. -/
def hexDigits : Nat → Nat → List Char
  | 0, _ => []
  | width + 1, n => hexDigits width (n / 16) ++ [hexDigit (n % 16)]

def quoteFor (hasSingle hasDouble : Bool) : Char :=
  if hasSingle && !hasDouble then '"' else '\''

def codeEscape (code : Nat) : List Char :=
  if code < 0x100 then '\\' :: 'x' :: hexDigits 2 code
  else if code < 0x10000 then '\\' :: 'u' :: hexDigits 4 code
  else '\\' :: 'U' :: hexDigits 8 code

def ofChars (chars : List Char) : Text := ⟨chars.map .char⟩

/-- One code point between quotes: the quote itself and the backslash are escaped, and so is
everything that is not printable. -/
def quotedPoint (quote : Char) (c : CodePoint) : List CodePoint :=
  if c = quote ∨ c = '\\' then ['\\', c]
  else if c = '\n' then ['\\', 'n']
  else if c = '\r' then ['\\', 'r']
  else if c = '\t' then ['\\', 't']
  else if isPrintable c then [c]
  else (codeEscape c.toNat).map .char

def quoted (text : Text) : Text :=
  let quote := quoteFor (text.toList.contains '\'') (text.toList.contains '"')
  ⟨quote :: (text.toList.flatMap (quotedPoint quote) ++ [.char quote])⟩

/-- Bytes are spelled by their ASCII characters where those are printable. -/
def quotedByte (quote : Char) (byte : UInt8) : List Char :=
  let c := Char.ofNat byte.toNat
  if c = quote ∨ c = '\\' then ['\\', c]
  else if c = '\n' then ['\\', 'n']
  else if c = '\r' then ['\\', 'r']
  else if c = '\t' then ['\\', 't']
  else if 0x20 ≤ byte.toNat ∧ byte.toNat < 0x7f then [c]
  else '\\' :: 'x' :: hexDigits 2 byte.toNat

def quotedBytes (bytes : List UInt8) : Text :=
  let quote := quoteFor (bytes.contains 39) (bytes.contains 34)
  ofChars ('b' :: quote :: (bytes.flatMap (quotedByte quote) ++ [quote]))

end DtoForge.Text
