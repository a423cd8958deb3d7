import DtoForge.Document.Yaml.Lexer
import DtoForge.Document.Yaml.Tag

/-!
The node graph of a YAML text, with every alias replaced by the node that it stands for. An alias
inside its own node is a loop. A text holds at most one document, and an anchor is given once.
-/

namespace DtoForge.Document.Yaml

inductive Node
  | scalar (tag : Tag) (text : Text)
  | sequence (tag : Tag) (items : List Node)
  | mapping (tag : Tag) (pairs : List (Node × Node))
  | loop

/-- The tokens that are left, the anchors so far, a loop while their node is being read, and the
tag handles of the document. -/
structure Reading where
  tokens : List Token
  anchors : List (String × Node) := []
  handles : List (String × String) := []

abbrev Reader := StateT Reading (Except Fault)

namespace Reader

def malformed {α : Type} : Reader α := throw .malformed

def peek : Reader Token := do
  match (← get).tokens with
  | .broken fault :: _ => throw fault
  | token :: _ => return token
  | [] => malformed

def skip : Reader Unit := modify fun reading => { reading with tokens := reading.tokens.drop 1 }

def nextIs (tokens : List Token) : Reader Bool := return tokens.contains (← peek)

def take? (token : Token) : Reader Bool := do
  if (← peek) = token then
    skip
    return true
  else return false

def defaultHandles : List (String × String) := [("!", "!"), ("!!", Tag.coreHandle)]

def tagText (name : TagName) : Reader String := do
  match name.handle with
  | none => return name.rest
  | some handle =>
    match (← get).handles.lookup handle with
    | some start => return start ++ name.rest
    | none => malformed

def properties : Reader (Option String × Option String) := do
  match ← peek with
  | .anchor name =>
    skip
    match ← peek with
    | .tag tag =>
      skip
      return (some name, some (← tagText tag))
    | _ => return (some name, none)
  | .tag tag =>
    skip
    match ← peek with
    | .anchor name =>
      skip
      return (some name, some (← tagText tag))
    | _ => return (none, some (← tagText tag))
  | _ => return (none, none)

def setAnchor (anchor : Option String) (node : Node) : Reader Unit :=
  match anchor with
  | none => return
  | some name => modify fun reading => { reading with anchors := (name, node) :: reading.anchors }

/-- Announces an anchor, which must be new. -/
def openAnchor (anchor : Option String) : Reader Unit := do
  match anchor with
  | none => return
  | some name =>
    if ((← get).anchors.lookup name).isSome then malformed
    setAnchor anchor .loop

def emptyNode : Node := .scalar .null ""

/-- The tag given, or the one that the form asks for if there is none or only a mark. -/
def tagOr (tag : Option String) (implied : Tag) : Tag :=
  match tag with
  | none => implied
  | some name => if name = "!" then implied else .ofName name

/-- The tag of a scalar. Its form decides when it is plain or has the mark alone. -/
def scalarTag (tag : Option String) (text : Text) (plain : Bool) : Tag :=
  tagOr tag (if plain || tag.isSome then plainTag text else .str)

mutual

/-- A node. Block collections are admitted in blocks only, and a sequence without indentation only
where a mapping holds it. -/
def node : Nat → Bool → Bool → Reader Node
  | 0, _, _ => malformed
  | limit + 1, inBlock, indentless => do
    match ← peek with
    | .reference name =>
      skip
      match (← get).anchors.lookup name with
      | some node => return node
      | none => malformed
    | _ =>
      let (anchor, tag) ← properties
      let token ← peek
      openAnchor anchor
      let result ←
        if indentless && token = .blockEntry then
          pure (.sequence (tagOr tag .seq) (← indentlessItems limit))
        else
          match token with
          | .scalar text plain =>
            skip
            pure (.scalar (scalarTag tag text plain) text)
          | .flowSequenceStart =>
            skip
            pure (.sequence (tagOr tag .seq) (← flowItems limit true))
          | .flowMappingStart =>
            skip
            pure (.mapping (tagOr tag .map) (← flowPairs limit true))
          | .blockSequenceStart =>
            if inBlock then
              skip
              pure (.sequence (tagOr tag .seq) (← blockItems limit))
            else malformed
          | .blockMappingStart =>
            if inBlock then
              skip
              pure (.mapping (tagOr tag .map) (← blockPairs limit))
            else malformed
          | _ =>
            if anchor.isSome || tag.isSome then pure (.scalar (scalarTag tag "" true) "")
            else malformed
      setAnchor anchor result
      return result

def blockItems : Nat → Reader (List Node)
  | 0 => malformed
  | limit + 1 => do
    if ← take? .blockEntry then
      let item ←
        if ← nextIs [.blockEntry, .blockEnd] then pure emptyNode else node limit true false
      return item :: (← blockItems limit)
    else if ← take? .blockEnd then return []
    else malformed

/-- Entries of a sequence without indentation, as many as follow. -/
def indentlessItems : Nat → Reader (List Node)
  | 0 => malformed
  | limit + 1 => do
    if ← take? .blockEntry then
      let item ←
        if ← nextIs [.blockEntry, .key, .value, .blockEnd] then pure emptyNode
        else node limit true false
      return item :: (← indentlessItems limit)
    else return []

/-- Entries of a block mapping up to its end. Every entry starts with a key. -/
def blockPairs : Nat → Reader (List (Node × Node))
  | 0 => malformed
  | limit + 1 => do
    if ← take? .key then
      let key ←
        if ← nextIs [.key, .value, .blockEnd] then pure emptyNode else node limit true true
      let value ←
        if ← take? .value then
          if ← nextIs [.key, .value, .blockEnd] then pure emptyNode else node limit true true
        else pure emptyNode
      return (key, value) :: (← blockPairs limit)
    else if ← take? .blockEnd then return []
    else malformed

def flowItems : Nat → Bool → Reader (List Node)
  | 0, _ => malformed
  | limit + 1, first => do
    if ← take? .flowSequenceEnd then return []
    unless first do
      unless ← take? .flowEntry do malformed
    if ← take? .key then
      let key ←
        if ← nextIs [.value, .flowEntry, .flowSequenceEnd] then pure emptyNode
        else node limit false false
      let value ←
        if ← take? .value then
          if ← nextIs [.flowEntry, .flowSequenceEnd] then pure emptyNode
          else node limit false false
        else pure emptyNode
      return .mapping .map [(key, value)] :: (← flowItems limit false)
    else if ← take? .flowSequenceEnd then return []
    else
      let item ← node limit false false
      return item :: (← flowItems limit false)

/-- Entries of a flow mapping up to its end. An entry without a colon has no value. -/
def flowPairs : Nat → Bool → Reader (List (Node × Node))
  | 0, _ => malformed
  | limit + 1, first => do
    if ← take? .flowMappingEnd then return []
    unless first do
      unless ← take? .flowEntry do malformed
    if ← take? .key then
      let key ←
        if ← nextIs [.value, .flowEntry, .flowMappingEnd] then pure emptyNode
        else node limit false false
      let value ←
        if ← take? .value then
          if ← nextIs [.flowEntry, .flowMappingEnd] then pure emptyNode
          else node limit false false
        else pure emptyNode
      return (key, value) :: (← flowPairs limit false)
    else if ← take? .flowMappingEnd then return []
    else
      let key ← node limit false false
      return (key, emptyNode) :: (← flowPairs limit false)

end

/-- The directives before a document: at most one version, which has to be 1, and handles that
differ from each other. -/
def directives : Nat → Bool → List (String × String) → Reader (List (String × String))
  | 0, _, _ => malformed
  | limit + 1, versioned, handles => do
    match ← peek with
    | .directive directive =>
      skip
      match directive with
      | .version major =>
        if versioned || major ≠ 1 then malformed
        directives limit true handles
      | .tagPrefix handle value =>
        if (handles.lookup handle).isSome then malformed
        directives limit versioned ((handle, value) :: handles)
      | .reserved => directives limit versioned handles
    | _ => return handles

def isDirective : Token → Bool
  | .directive _ => true
  | _ => false

/-- The document of a text, none if the text is empty. -/
def document (limit : Nat) : Reader (Option Node) := do
  let first ← peek
  if first = .streamEnd then return none
  else if isDirective first || first = .documentStart then
    let handles ← directives limit false []
    unless ← take? .documentStart do malformed
    modify fun reading => { reading with handles := handles ++ defaultHandles }
    let token ← peek
    if isDirective token || [.documentStart, .documentEnd, .streamEnd].contains token then
      return some emptyNode
    else return some (← node limit true false)
  else
    modify fun reading => { reading with handles := defaultHandles }
    return some (← node limit true false)

def finish : Nat → Reader Unit
  | 0 => malformed
  | limit + 1 => do
    if ← take? .documentEnd then finish limit
    else unless ← take? .streamEnd do malformed

end Reader

/-- The node of a text. Every call of a reader takes a token at the latest in the call after it,
which bounds their depth. -/
def nodeOf (text : String) : Except Fault (Option Node) :=
  let tokens := tokensOf text
  let limit := 3 * tokens.length + 3
  let read : Reader (Option Node) := do
    let root ← Reader.document limit
    if root.isSome then Reader.finish limit
    return root
  (read.run { tokens }).map (·.1)

end DtoForge.Document.Yaml
