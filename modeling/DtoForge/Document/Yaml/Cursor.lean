/-!
A place in a YAML text: the characters that are left, with the index, line and column of the
first of them. A text never holds the null character, so it stands for the end.
-/

namespace DtoForge.Document.Yaml

structure Cursor where
  rest : List Char
  index : Nat := 0
  line : Nat := 0
  column : Nat := 0

def endMark : Char := '\x00'

def isBreak (c : Char) : Bool :=
  c = '\n' || c = '\r' || c = '\x85' || c = '\u2028' || c = '\u2029'

def isBreakOrEnd (c : Char) : Bool := c = endMark || isBreak c

def isSpaceOrEnd (c : Char) : Bool := c = ' ' || isBreakOrEnd c

def isGapOrEnd (c : Char) : Bool := c = '\t' || isSpaceOrEnd c

def isNameChar (c : Char) : Bool := c.isAlphanum || c = '-' || c = '_'

namespace Cursor

def peek (cursor : Cursor) : Char := cursor.rest.headD endMark

def peekAt (cursor : Cursor) (distance : Nat) : Char := cursor.rest.getD distance endMark

/-- One character on. A carriage return before a line feed ends no line, and a byte order mark
takes no column. -/
def next (cursor : Cursor) : Cursor :=
  match cursor.rest with
  | [] => cursor
  | c :: rest =>
    if isBreak c && !(c = '\r' && rest.head? = some '\n') then
      ⟨rest, cursor.index + 1, cursor.line + 1, 0⟩
    else ⟨rest, cursor.index + 1, cursor.line, cursor.column + if c = '\ufeff' then 0 else 1⟩

def advance : Nat → Cursor → Cursor
  | 0, cursor => cursor
  | count + 1, cursor => advance count cursor.next

def span (cursor : Cursor) (holds : Char → Bool) : List Char × Cursor :=
  let taken := cursor.rest.takeWhile holds
  (taken, cursor.advance taken.length)

def skip (cursor : Cursor) (holds : Char → Bool) : Cursor := (cursor.span holds).2

def skipSpaces (cursor : Cursor) : Cursor := cursor.skip (· = ' ')

def skipComment (cursor : Cursor) : Cursor :=
  if cursor.peek = '#' then cursor.skip fun c => !isBreakOrEnd c else cursor

/-- A line break as it counts in a text: the two separators of Unicode stand for themselves and
every other break for a line feed. -/
def lineBreak? (cursor : Cursor) : Option (Char × Cursor) :=
  let c := cursor.peek
  if c = '\r' ∧ cursor.peekAt 1 = '\n' then some ('\n', cursor.advance 2)
  else if c = '\n' ∨ c = '\r' ∨ c = '\x85' then some ('\n', cursor.next)
  else if c = '\u2028' ∨ c = '\u2029' then some (c, cursor.next)
  else none

def atMarker (cursor : Cursor) (c : Char) : Bool :=
  cursor.rest.take 3 == [c, c, c] && isGapOrEnd (cursor.peekAt 3)

def atDocumentMarker (cursor : Cursor) : Bool := cursor.atMarker '-' || cursor.atMarker '.'

end Cursor

end DtoForge.Document.Yaml
