import DtoForge.Document.Yaml.Scalar
import DtoForge.Document.Yaml.Token
import DtoForge.Text.Numeral
import DtoForge.Text.Utf8

/-!
From a text to its tokens. A key need not be announced: a token that may turn out to be a key is
remembered with its place, and when a colon follows on the same line within 1024 characters, the
key token is put in front of it afterwards.
-/

namespace DtoForge.Document.Yaml

/-- A token that may turn out to be a key. A required one stands where only a key can. -/
structure KeyCandidate where
  token : Nat
  required : Bool
  index : Nat
  line : Nat
  column : Nat

structure Lexer where
  cursor : Cursor
  tokens : Array Token := #[]
  flowLevel : Nat := 0
  indent : Int := -1
  outerIndents : List Int := []
  keyAllowed : Bool := true
  candidates : List (Nat × KeyCandidate) := []

namespace Lexer

def emit (lexer : Lexer) (token : Token) : Lexer := { lexer with tokens := lexer.tokens.push token }

def inFlow (lexer : Lexer) : Bool := lexer.flowLevel ≠ 0

def closeBlocks (column : Int) : Int → List Int → Array Token → Int × List Int × Array Token
  | indent, [], tokens => (indent, [], tokens)
  | indent, outer :: others, tokens =>
    if column < indent then closeBlocks column outer others (tokens.push .blockEnd)
    else (indent, outer :: others, tokens)

def unwind (lexer : Lexer) (column : Int) : Lexer :=
  if lexer.inFlow then lexer
  else
    let (indent, outerIndents, tokens) :=
      closeBlocks column lexer.indent lexer.outerIndents lexer.tokens
    { lexer with indent, outerIndents, tokens }

/-- Opens a block at a column if it is deeper than the current one, with the start token at a
place among the tokens. -/
def openBlock (lexer : Lexer) (column : Nat) (start : Token) (place : Nat) : Lexer :=
  if lexer.indent < Int.ofNat column then
    { lexer with
      outerIndents := lexer.indent :: lexer.outerIndents
      indent := Int.ofNat column
      tokens := lexer.tokens.insertIdxIfInBounds place start }
  else lexer

def candidate? (lexer : Lexer) : Option KeyCandidate := lexer.candidates.lookup lexer.flowLevel

def withoutCandidate (lexer : Lexer) : Lexer :=
  { lexer with candidates := lexer.candidates.filter fun entry => entry.1 ≠ lexer.flowLevel }

/-- Gives up the candidate of the current level; a required one must not be given up. -/
def dropCandidate (lexer : Lexer) : Except Fault Lexer :=
  match lexer.candidate? with
  | some candidate => if candidate.required then .error .malformed else .ok lexer.withoutCandidate
  | none => .ok lexer

def saveCandidate (lexer : Lexer) : Except Fault Lexer :=
  if lexer.keyAllowed then do
    let lexer ← lexer.dropCandidate
    let cursor := lexer.cursor
    let candidate : KeyCandidate :=
      { token := lexer.tokens.size
        required := !lexer.inFlow && lexer.indent = Int.ofNat cursor.column
        index := cursor.index
        line := cursor.line
        column := cursor.column }
    return { lexer with candidates := (lexer.flowLevel, candidate) :: lexer.candidates }
  else .ok lexer

def isStale (lexer : Lexer) (candidate : KeyCandidate) : Bool :=
  candidate.line ≠ lexer.cursor.line || 1024 < lexer.cursor.index - candidate.index

/-- Gives up the candidates on other lines and those too far away. -/
def dropStale (lexer : Lexer) : Except Fault Lexer :=
  if lexer.candidates.any fun entry => lexer.isStale entry.2 && entry.2.required then
    .error .malformed
  else
    .ok { lexer with candidates := lexer.candidates.filter fun entry => !lexer.isStale entry.2 }

def skipGaps : Nat → Lexer → Lexer
  | 0, lexer => lexer
  | limit + 1, lexer =>
    let cursor := lexer.cursor.skipSpaces.skipComment
    match cursor.lineBreak? with
    | none => { lexer with cursor }
    | some (_, cursor) =>
      skipGaps limit { lexer with cursor, keyAllowed := lexer.keyAllowed || !lexer.inFlow }

def emitFixed (lexer : Lexer) (length : Nat) (token : Token) : Lexer :=
  { lexer.emit token with cursor := lexer.cursor.advance length }

def documentMarker (lexer : Lexer) (token : Token) : Except Fault Lexer := do
  let lexer ← (lexer.unwind (-1)).dropCandidate
  return { lexer with keyAllowed := false }.emitFixed 3 token

def flowStart (lexer : Lexer) (token : Token) : Except Fault Lexer := do
  let lexer ← lexer.saveCandidate
  return { lexer with flowLevel := lexer.flowLevel + 1, keyAllowed := true }.emitFixed 1 token

def flowEnd (lexer : Lexer) (token : Token) : Except Fault Lexer := do
  let lexer ← lexer.dropCandidate
  if lexer.flowLevel = 0 then throw .malformed
  return { lexer with flowLevel := lexer.flowLevel - 1, keyAllowed := false }.emitFixed 1 token

def flowEntry (lexer : Lexer) : Except Fault Lexer := do
  let lexer ← { lexer with keyAllowed := true }.dropCandidate
  return lexer.emitFixed 1 .flowEntry

/-- An indicator that starts an entry of a block, which needs a place where a key could stand. -/
def startEntry (lexer : Lexer) (start : Token) : Except Fault Lexer :=
  if lexer.inFlow then .ok lexer
  else if lexer.keyAllowed then
    .ok (lexer.openBlock lexer.cursor.column start lexer.tokens.size)
  else .error .malformed

def blockEntry (lexer : Lexer) : Except Fault Lexer := do
  let lexer ← lexer.startEntry .blockSequenceStart
  let lexer ← { lexer with keyAllowed := true }.dropCandidate
  return lexer.emitFixed 1 .blockEntry

def explicitKey (lexer : Lexer) : Except Fault Lexer := do
  let lexer ← lexer.startEntry .blockMappingStart
  let lexer ← { lexer with keyAllowed := !lexer.inFlow }.dropCandidate
  return lexer.emitFixed 1 .key

/-- A colon makes the candidate a key; without one it has an empty key before it. -/
def value (lexer : Lexer) : Except Fault Lexer :=
  match lexer.candidate? with
  | some candidate =>
    let lexer := lexer.withoutCandidate
    let lexer := { lexer with tokens := lexer.tokens.insertIdxIfInBounds candidate.token .key }
    let lexer :=
      if lexer.inFlow then lexer
      else lexer.openBlock candidate.column .blockMappingStart candidate.token
    .ok ({ lexer with keyAllowed := false }.emitFixed 1 .value)
  | none => do
    let lexer ← lexer.startEntry .blockMappingStart
    return { lexer with keyAllowed := !lexer.inFlow }.emitFixed 1 .value

def emitKeyLike (lexer : Lexer) (read : Cursor → Except Fault (Token × Cursor)) :
    Except Fault Lexer := do
  let lexer ← lexer.saveCandidate
  let (token, cursor) ← read lexer.cursor
  return { lexer.emit token with cursor, keyAllowed := false }

def nameToken (make : String → Token) (cursor : Cursor) : Except Fault (Token × Cursor) :=
  let (name, cursor) := cursor.next.span isNameChar
  let ends := isGapOrEnd cursor.peek ||
    ['?', ':', ',', ']', '\x7d', '%', '@', '\x60'].contains cursor.peek
  if name.isEmpty || !ends then .error .malformed else .ok (make (String.ofList name), cursor)

/-! ### Tags -/

def isUriChar (c : Char) : Bool :=
  isNameChar c || (";/?:@&=+$,.!~*'()[]".toList).contains c

def uriEscapes : Nat → List UInt8 → Cursor → Except Fault (List UInt8 × Cursor)
  | 0, bytes, cursor => .ok (bytes.reverse, cursor)
  | limit + 1, bytes, cursor =>
    if cursor.peek = '%' then
      match hexNumber? 2 0 cursor.next.rest with
      | some byte => uriEscapes limit (UInt8.ofNat byte :: bytes) (cursor.advance 3)
      | none => .error .malformed
    else .ok (bytes.reverse, cursor)

/-- The characters of a tag; escaped bytes have to be UTF-8. -/
def uriFrom : Nat → List Char → Cursor → Except Fault (List Char × Cursor)
  | 0, read, cursor => .ok (read, cursor)
  | limit + 1, read, cursor =>
    if cursor.peek = '%' then do
      let (bytes, cursor) ← uriEscapes (cursor.rest.length + 1) [] cursor
      match Text.decodeUtf8From 0 [] bytes with
      | .ok chars => uriFrom limit (read ++ chars) cursor
      | .error _ => throw .malformed
    else if isUriChar cursor.peek then
      let (chars, cursor) := cursor.span isUriChar
      uriFrom limit (read ++ chars) cursor
    else .ok (read, cursor)

def uri (cursor : Cursor) : Except Fault (String × Cursor) := do
  let (read, after) ← uriFrom (cursor.rest.length + 1) [] cursor
  if after.index = cursor.index then throw .malformed
  return (String.ofList read, after)

def tagHandle (cursor : Cursor) : Except Fault (String × Cursor) :=
  if cursor.peek ≠ '!' then .error .malformed
  else if cursor.peekAt 1 = ' ' then .ok ("!", cursor.next)
  else
    let (name, after) := cursor.next.span isNameChar
    if after.peek = '!' then .ok (String.ofList ('!' :: (name ++ ['!'])), after.next)
    else .error .malformed

def hasSecondMark (cursor : Cursor) : Bool :=
  (cursor.next.rest.takeWhile fun c => !isSpaceOrEnd c).contains '!'

def tagToken (cursor : Cursor) : Except Fault (Token × Cursor) := do
  let (name, cursor) ←
    if cursor.peekAt 1 = '<' then do
      let (text, cursor) ← uri (cursor.advance 2)
      if cursor.peek ≠ '>' then throw .malformed
      pure ((⟨none, text⟩ : TagName), cursor.next)
    else if isGapOrEnd (cursor.peekAt 1) then pure (⟨none, "!"⟩, cursor.next)
    else do
      let (handle, cursor) ←
        if hasSecondMark cursor then tagHandle cursor else pure ("!", cursor.next)
      let (text, cursor) ← uri cursor
      pure (⟨some handle, text⟩, cursor)
  if isSpaceOrEnd cursor.peek then return (.tag name, cursor) else throw .malformed

/-! ### Directives -/

def directiveNumber (cursor : Cursor) : Except Fault (Nat × Cursor) :=
  let (digits, cursor) := cursor.span Char.isDigit
  if digits.isEmpty then .error .malformed
  else if Text.digitLimit < digits.length then .error (.digits digits.length)
  else .ok (digits.foldl (fun value c => value * 10 + (c.toNat - 48)) 0, cursor)

def versionDirective (cursor : Cursor) : Except Fault (Directive × Cursor) := do
  let (major, cursor) ← directiveNumber cursor.skipSpaces
  if cursor.peek ≠ '.' then throw .malformed
  let (_, cursor) ← directiveNumber cursor.next
  if isSpaceOrEnd cursor.peek then return (.version major, cursor) else throw .malformed

def tagDirective (cursor : Cursor) : Except Fault (Directive × Cursor) := do
  let (handle, cursor) ← tagHandle cursor.skipSpaces
  if cursor.peek ≠ ' ' then throw .malformed
  let (value, cursor) ← uri cursor.skipSpaces
  if isSpaceOrEnd cursor.peek then return (.tagPrefix handle value, cursor) else throw .malformed

def directiveToken (cursor : Cursor) : Except Fault (Directive × Cursor) := do
  let (name, cursor) := cursor.next.span isNameChar
  if name.isEmpty || !isSpaceOrEnd cursor.peek then throw .malformed
  let (directive, cursor) ←
    if name = "YAML".toList then versionDirective cursor
    else if name = "TAG".toList then tagDirective cursor
    else pure (.reserved, cursor.skip fun c => !isBreakOrEnd c)
  return (directive, ← emptyLine cursor)

def directive (lexer : Lexer) : Except Fault Lexer := do
  let lexer ← (lexer.unwind (-1)).dropCandidate
  let (directive, cursor) ← directiveToken lexer.cursor
  return { lexer.emit (.directive directive) with cursor, keyAllowed := false }

/-! ### One token after the other -/

def block (lexer : Lexer) (folded : Bool) : Except Fault Lexer := do
  let lexer ← { lexer with keyAllowed := true }.dropCandidate
  let (text, cursor) ← blockScalar folded lexer.indent lexer.cursor
  return { lexer.emit (.scalar (Text.ofChars text) false) with cursor }

def plain (lexer : Lexer) : Except Fault Lexer := do
  let lexer ← lexer.saveCandidate
  let (text, cursor, broken) := plainScalar lexer.inFlow lexer.indent lexer.cursor
  return { lexer.emit (.scalar (Text.ofChars text) true) with cursor, keyAllowed := broken }

def quoted (lexer : Lexer) (double : Bool) : Except Fault Lexer :=
  lexer.emitKeyLike fun cursor =>
    (quotedScalar double cursor).map fun (text, cursor) => (.scalar text false, cursor)

def startsPlain (inFlow : Bool) (c next : Char) : Bool :=
  let indicators := "-?:,[]\x7b\x7d#&*!|>'\"%@\x60".toList
  (!isGapOrEnd c && !indicators.contains c) ||
    (!isGapOrEnd next && (c = '-' || (!inFlow && (c = '?' || c = ':'))))

def token (lexer : Lexer) : Except Fault Lexer :=
  let cursor := lexer.cursor
  let c := cursor.peek
  let alone := isGapOrEnd (cursor.peekAt 1)
  let atLineStart := cursor.column = 0
  if c = '%' ∧ atLineStart then lexer.directive
  else if atLineStart ∧ cursor.atMarker '-' then lexer.documentMarker .documentStart
  else if atLineStart ∧ cursor.atMarker '.' then lexer.documentMarker .documentEnd
  else if c = '[' then lexer.flowStart .flowSequenceStart
  else if c = '\x7b' then lexer.flowStart .flowMappingStart
  else if c = ']' then lexer.flowEnd .flowSequenceEnd
  else if c = '\x7d' then lexer.flowEnd .flowMappingEnd
  else if c = ',' then lexer.flowEntry
  else if c = '-' ∧ alone then lexer.blockEntry
  else if c = '?' ∧ (lexer.inFlow ∨ alone) then lexer.explicitKey
  else if c = ':' ∧ (lexer.inFlow ∨ alone) then lexer.value
  else if c = '*' then lexer.emitKeyLike (nameToken .reference)
  else if c = '&' then lexer.emitKeyLike (nameToken .anchor)
  else if c = '!' then lexer.emitKeyLike tagToken
  else if c = '|' ∧ !lexer.inFlow then lexer.block false
  else if c = '>' ∧ !lexer.inFlow then lexer.block true
  else if c = '\'' then lexer.quoted false
  else if c = '"' then lexer.quoted true
  else if startsPlain lexer.inFlow c (cursor.peekAt 1) then lexer.plain
  else .error .malformed

def finish (lexer : Lexer) : Except Fault Lexer := do
  let lexer ← (lexer.unwind (-1)).dropCandidate
  return lexer.emit .streamEnd

/-- All tokens; every step but the last takes at least one character. -/
def run : Nat → Lexer → Array Token
  | 0, lexer => lexer.tokens.push (.broken .malformed)
  | limit + 1, lexer =>
    let spaced := skipGaps (lexer.cursor.rest.length + 1) lexer
    match spaced.dropStale with
    | .error fault => lexer.tokens.push (.broken fault)
    | .ok fresh =>
      let ready := fresh.unwind (Int.ofNat fresh.cursor.column)
      if ready.cursor.rest.isEmpty then
        match ready.finish with
        | .error fault => ready.tokens.push (.broken fault)
        | .ok last => last.tokens
      else
        match ready.token with
        | .error fault => ready.tokens.push (.broken fault)
        | .ok after => run limit after

end Lexer

def isAllowed (c : Char) : Bool :=
  let n := c.toNat
  n = 0x9 || n = 0xa || n = 0xd || (0x20 ≤ n && n ≤ 0x7e) || n = 0x85 ||
    (0xa0 ≤ n && n ≤ 0xd7ff) || (0xe000 ≤ n && n ≤ 0xfffd) || (0x10000 ≤ n && n ≤ 0x10ffff)

/-- The tokens of a text. A byte order mark at its start is not part of it. -/
def tokensOf (text : String) : List Token :=
  let chars := text.toList
  if chars.all isAllowed then
    let start : Cursor := { rest := chars }
    let cursor := if start.peek = '\ufeff' then start.next else start
    (Lexer.run (chars.length + 1) { cursor }).toList
  else [.broken .malformed]

end DtoForge.Document.Yaml
