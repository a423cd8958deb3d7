import DtoForge.Text.Quoted
import DtoForge.Text.Units

/-!
The canonical encoding under a schema's signature: texts, an absent value and lists of these,
written in ASCII without blanks. A text is written by its UTF-16 units, of which those outside
printable ASCII are escaped.
-/

namespace DtoForge

inductive Canonical
  | absent
  | text (value : Text)
  | list (items : List Canonical)

namespace Canonical

def ofText? : Option Text → Canonical
  | none => .absent
  | some value => .text value

def unitEscape (unit : Nat) : List Char := '\\' :: 'u' :: Text.hexDigits 4 unit

def escapeUnit (unit : Nat) : List Char :=
  if unit = '"'.toNat then ['\\', '"']
  else if unit = '\\'.toNat then ['\\', '\\']
  else if unit = '\n'.toNat then ['\\', 'n']
  else if unit = '\r'.toNat then ['\\', 'r']
  else if unit = '\t'.toNat then ['\\', 't']
  else if unit = '\x0c'.toNat then ['\\', 'f']
  else if unit = '\x08'.toNat then ['\\', 'b']
  else if 0x20 ≤ unit ∧ unit < 0x7f then [Char.ofNat unit]
  else unitEscape unit

def renderText (value : Text) : List Char := '"' :: (value.units.flatMap escapeUnit ++ ['"'])

mutual

def render : Canonical → List Char
  | .absent => ['n', 'u', 'l', 'l']
  | .text value => renderText value
  | .list items => '[' :: (renderItems items ++ [']'])

def renderItems : List Canonical → List Char
  | [] => []
  | [item] => render item
  | item :: rest => render item ++ ',' :: renderItems rest

end

end Canonical

end DtoForge
