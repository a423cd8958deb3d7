import DtoForge.Document.Yaml.Cursor
import DtoForge.Document.Yaml.Fault
import DtoForge.Text.Basic

/-!
The texts of scalars in their three styles: plain, quoted, and block. Each reader starts at the
first character of the scalar and returns its text with the place after it. The bounds on the
loops are the number of characters left.
-/

namespace DtoForge.Document.Yaml

/-! ### Plain scalars -/

def endsPlain (inFlow : Bool) (c next : Char) : Bool :=
  isGapOrEnd c ||
    (c = ':' && (isGapOrEnd next || (inFlow && [',', '[', ']', '\x7b', '\x7d'].contains next))) ||
    (inFlow && [',', '?', '[', ']', '\x7b', '\x7d'].contains c)

/-- The number of characters up to the end of a plain scalar or the next gap in it. -/
def plainLength (inFlow : Bool) : List Char → Nat
  | [] => 0
  | c :: rest => if endsPlain inFlow c (rest.headD endMark) then 0 else plainLength inFlow rest + 1

/-- Blank lines and the spaces that start lines, up to text or to a document marker. The breaks
come in order; the flag tells that a marker was met. -/
def plainBreaks : Nat → List Char → Cursor → List Char × Cursor × Bool
  | 0, breaks, cursor => (breaks.reverse, cursor, false)
  | limit + 1, breaks, cursor =>
    if cursor.peek = ' ' then plainBreaks limit breaks cursor.next
    else
      match cursor.lineBreak? with
      | none => (breaks.reverse, cursor, false)
      | some (c, cursor) =>
        if cursor.atDocumentMarker then ([], cursor, true)
        else plainBreaks limit (c :: breaks) cursor

/-- The folded form of a line break with the breaks after it. -/
def foldBreaks (first : Char) (breaks : List Char) : List Char :=
  if first ≠ '\n' then first :: breaks else if breaks.isEmpty then [' '] else breaks

/-- The gap after a piece of a plain scalar: its text, none if the scalar ends here, the place
after it, and if it spans lines. -/
def plainGap (cursor : Cursor) : List Char × Cursor × Bool :=
  let (spaces, cursor) := cursor.span (· = ' ')
  match cursor.lineBreak? with
  | none => (spaces, cursor, false)
  | some (first, cursor) =>
    if cursor.atDocumentMarker then ([], cursor, true)
    else
      let (breaks, cursor, marker) := plainBreaks cursor.rest.length [] cursor
      (if marker then [] else foldBreaks first breaks, cursor, true)

/-- The pieces of a plain scalar; the flag tells that the last gap read spans lines. -/
def plainFrom (inFlow : Bool) (indent : Int) :
    Nat → List Char → List Char → Bool → Cursor → List Char × Cursor × Bool
  | 0, read, _, broken, cursor => (read, cursor, broken)
  | limit + 1, read, gap, broken, cursor =>
    let length := plainLength inFlow cursor.rest
    if cursor.peek = '#' ∨ length = 0 then (read, cursor, broken)
    else
      let read := read ++ gap ++ cursor.rest.take length
      let (gap, cursor, broken) := plainGap (cursor.advance length)
      if gap.isEmpty || cursor.peek = '#' || (!inFlow && Int.ofNat cursor.column < indent) then
        (read, cursor, broken)
      else plainFrom inFlow indent limit read gap broken cursor

/-- A plain scalar in a block of some indentation, and if a line break follows it. -/
def plainScalar (inFlow : Bool) (indent : Int) (cursor : Cursor) : List Char × Cursor × Bool :=
  plainFrom inFlow (indent + 1) (cursor.rest.length + 1) [] [] false cursor

/-! ### Quoted scalars -/

def hexDigitValue? (c : Char) : Option Nat :=
  if '0' ≤ c ∧ c ≤ '9' then some (c.toNat - 48)
  else if 'a' ≤ c ∧ c ≤ 'f' then some (c.toNat - 87)
  else if 'A' ≤ c ∧ c ≤ 'F' then some (c.toNat - 55)
  else none

def hexNumber? : Nat → Nat → List Char → Option Nat
  | 0, value, _ => some value
  | _ + 1, _, [] => none
  | count + 1, value, c :: rest => do hexNumber? count (value * 16 + (← hexDigitValue? c)) rest

def escapeReplacement? : Char → Option Char
  | '0' => some '\x00'
  | 'a' => some '\x07'
  | 'b' => some '\x08'
  | 't' => some '\t'
  | '\t' => some '\t'
  | 'n' => some '\n'
  | 'v' => some '\x0b'
  | 'f' => some '\x0c'
  | 'r' => some '\r'
  | 'e' => some '\x1b'
  | ' ' => some ' '
  | '"' => some '"'
  | '\\' => some '\\'
  | '/' => some '/'
  | 'N' => some '\x85'
  | '_' => some '\xa0'
  | 'L' => some '\u2028'
  | 'P' => some '\u2029'
  | _ => none

def escapeLength? : Char → Option Nat
  | 'x' => some 2
  | 'u' => some 4
  | 'U' => some 8
  | _ => none

def quotedBreaks : Nat → List Char → Cursor → Except Fault (List Char × Cursor)
  | 0, breaks, cursor => .ok (breaks.reverse, cursor)
  | limit + 1, breaks, cursor =>
    if cursor.atDocumentMarker then .error .malformed
    else
      let cursor := cursor.skip fun c => c = ' ' || c = '\t'
      match cursor.lineBreak? with
      | none => .ok (breaks.reverse, cursor)
      | some (c, cursor) => quotedBreaks limit (c :: breaks) cursor

/-- A gap inside a quoted scalar: blanks stand for themselves unless a line ends there. -/
def quotedGap (cursor : Cursor) : Except Fault (List Char × Cursor) :=
  let (blanks, cursor) := cursor.span fun c => c = ' ' || c = '\t'
  if cursor.peek = endMark then .error .malformed
  else
    match cursor.lineBreak? with
    | none => .ok (blanks, cursor)
    | some (first, cursor) =>
      (quotedBreaks (cursor.rest.length + 1) [] cursor).map fun (breaks, cursor) =>
        (foldBreaks first breaks, cursor)

/-- An escape after its backslash. Each of two surrogates in a row stands for itself. -/
def quotedEscape (cursor : Cursor) : Except Fault (List CodePoint × Cursor) :=
  let c := cursor.peek
  match escapeReplacement? c, escapeLength? c with
  | some char, _ => .ok ([.char char], cursor.next)
  | none, some length =>
    match hexNumber? length 0 cursor.next.rest with
    | none => .error .malformed
    | some code =>
      if code < 0x110000 then .ok ([.ofNat code], cursor.next.advance length)
      else .error .codePoint
  | none, none =>
    match cursor.lineBreak? with
    | some (_, cursor) =>
      (quotedBreaks (cursor.rest.length + 1) [] cursor).map fun (breaks, cursor) =>
        (breaks.map .char, cursor)
    | none => .error .malformed

def isQuotedText (c : Char) : Bool := !(isGapOrEnd c || c = '\'' || c = '"' || c = '\\')

/-- The content of a quoted scalar up to its closing quote; `read` holds the earlier characters,
last first. -/
def quotedFrom (double : Bool) : Nat → List CodePoint → Cursor → Except Fault (Text × Cursor)
  | 0, _, _ => .error .malformed
  | limit + 1, read, cursor =>
    let c := cursor.peek
    if isQuotedText c then
      let (text, cursor) := cursor.span isQuotedText
      quotedFrom double limit (text.reverse.map .char ++ read) cursor
    else if !double ∧ c = '\'' ∧ cursor.peekAt 1 = '\'' then
      quotedFrom double limit ('\'' :: read) (cursor.advance 2)
    else if c = (if double then '"' else '\'') then .ok (⟨read.reverse⟩, cursor.next)
    else if (double ∧ c = '\'') ∨ (!double ∧ (c = '"' ∨ c = '\\')) then
      quotedFrom double limit (c :: read) cursor.next
    else if c = '\\' then
      match quotedEscape cursor.next with
      | .error fault => .error fault
      | .ok (text, cursor) => quotedFrom double limit (text.reverse ++ read) cursor
    else
      match quotedGap cursor with
      | .error fault => .error fault
      | .ok (text, cursor) => quotedFrom double limit (text.reverse.map .char ++ read) cursor

def quotedScalar (double : Bool) (cursor : Cursor) : Except Fault (Text × Cursor) :=
  quotedFrom double (cursor.rest.length + 1) [] cursor.next

/-! ### Block scalars -/

/-- What happens to the line breaks at the end of a block scalar. -/
inductive Chomping
  | strip
  | clip
  | keep
  deriving Repr, DecidableEq

def chomping? (c : Char) : Option Chomping :=
  if c = '+' then some .keep else if c = '-' then some .strip else none

def indentDigit (cursor : Cursor) : Except Fault (Option Nat × Cursor) :=
  let c := cursor.peek
  if c = '0' then .error .malformed
  else if '1' ≤ c ∧ c ≤ '9' then .ok (some (c.toNat - 48), cursor.next)
  else .ok (none, cursor)

/-- The header of a block scalar: chomping and indentation, in either order. -/
def blockHeader (cursor : Cursor) : Except Fault (Chomping × Option Nat × Cursor) := do
  let (chomping, increment, cursor) ←
    match chomping? cursor.peek with
    | some chomping =>
      let (increment, cursor) ← indentDigit cursor.next
      pure (chomping, increment, cursor)
    | none =>
      let (increment, cursor) ← indentDigit cursor
      match increment, chomping? cursor.peek with
      | some digit, some chomping => pure (chomping, some digit, cursor.next)
      | increment, _ => pure (.clip, increment, cursor)
  if isSpaceOrEnd cursor.peek then return (chomping, increment, cursor)
  else throw .malformed

def emptyLine (cursor : Cursor) : Except Fault Cursor :=
  let cursor := cursor.skipSpaces.skipComment
  if isBreakOrEnd cursor.peek then .ok ((cursor.lineBreak?.map (·.2)).getD cursor)
  else .error .malformed

def blockIndentation : Nat → List Char → Nat → Cursor → List Char × Nat × Cursor
  | 0, breaks, widest, cursor => (breaks.reverse, widest, cursor)
  | limit + 1, breaks, widest, cursor =>
    if cursor.peek = ' ' then
      let cursor := cursor.next
      blockIndentation limit breaks (max widest cursor.column) cursor
    else
      match cursor.lineBreak? with
      | none => (breaks.reverse, widest, cursor)
      | some (c, cursor) => blockIndentation limit (c :: breaks) widest cursor

def indentTo (column : Nat) (cursor : Cursor) : Cursor :=
  let spaces := (cursor.rest.takeWhile (· = ' ')).length
  cursor.advance (min spaces (column - cursor.column))

def blockBreaks (indent : Nat) : Nat → List Char → Cursor → List Char × Cursor
  | 0, breaks, cursor => (breaks.reverse, cursor)
  | limit + 1, breaks, cursor =>
    let cursor := indentTo indent cursor
    match cursor.lineBreak? with
    | none => (breaks.reverse, cursor)
    | some (c, cursor) => blockBreaks indent limit (c :: breaks) cursor

/-- The lines of a block scalar. Returned are the text before the last line break, that break, and
the breaks after it. -/
def blockLines (folded : Bool) (indent : Nat) :
    Nat → List Char → List Char → List Char → Cursor → List Char × List Char × List Char × Cursor
  | 0, read, lineBreak, breaks, cursor => (read, lineBreak, breaks, cursor)
  | limit + 1, read, lineBreak, breaks, cursor =>
    if cursor.column = indent ∧ cursor.peek ≠ endMark then
      let startsText := cursor.peek ≠ ' ' && cursor.peek ≠ '\t'
      let (text, cursor) := cursor.span fun c => !isBreakOrEnd c
      let read := read ++ breaks ++ text
      let (lineBreak, cursor) :=
        match cursor.lineBreak? with
        | some (c, cursor) => ([c], cursor)
        | none => ([], cursor)
      let (breaks, cursor) := blockBreaks indent (cursor.rest.length + 1) [] cursor
      if cursor.column = indent ∧ cursor.peek ≠ endMark then
        let next := cursor.peek
        let joint :=
          if folded && lineBreak = ['\n'] && startsText && next ≠ ' ' && next ≠ '\t' then
            if breaks.isEmpty then [' '] else []
          else lineBreak
        blockLines folded indent limit (read ++ joint) lineBreak breaks cursor
      else (read, lineBreak, breaks, cursor)
    else (read, lineBreak, breaks, cursor)

/-- A block scalar inside a block of some indentation, from its indicator on. -/
def blockScalar (folded : Bool) (indent : Int) (cursor : Cursor) :
    Except Fault (List Char × Cursor) := do
  let (chomping, increment, cursor) ← blockHeader cursor.next
  let cursor ← emptyLine cursor
  let least := max 1 (indent + 1).toNat
  let limit := cursor.rest.length + 1
  let (column, breaks, cursor) :=
    match increment with
    | none =>
      let (breaks, widest, cursor) := blockIndentation limit [] 0 cursor
      (max least widest, breaks, cursor)
    | some digit =>
      let column := least + digit - 1
      let (breaks, cursor) := blockBreaks column limit [] cursor
      (column, breaks, cursor)
  let (read, lineBreak, breaks, cursor) := blockLines folded column limit [] [] breaks cursor
  let text :=
    match chomping with
    | .strip => read
    | .clip => read ++ lineBreak
    | .keep => read ++ lineBreak ++ breaks
  return (text, cursor)

end DtoForge.Document.Yaml
