import DtoForge.CommandLine.Spec

/-!
Help pages: the usage line, the description, and tables of options and commands whose second
column is broken between words.
-/

namespace DtoForge.CommandLine

def pageWidth : Nat := 78

/-- A table's first column is at most this wide; longer entries have a line of their own. -/
def columnLimit : Nat := 30

/-- The words of a text, each with the number of spaces before it. -/
def spacedWords (text : Text) : List (Nat × Text) :=
  let pieces := text.toList.splitBy fun a b => (a == .char ' ') == (b == .char ' ')
  let step (entry : List (Nat × Text) × Nat) (piece : List CodePoint) : List (Nat × Text) × Nat :=
    if piece.head? = some (.char ' ') then (entry.1, piece.length)
    else (entry.1 ++ [(entry.2, ⟨piece⟩)], 0)
  (pieces.foldl step ([], 0)).1

def spaces (count : Nat) : Text := ⟨List.replicate count ' '⟩

/-- Fills lines with words; the spaces before a word are dropped where a line starts. -/
def fillLines (width : Nat) : List (Nat × Text) → Text → List Text
  | [], line => [line]
  | (gap, word) :: rest, line =>
    if line = "" then fillLines width rest word
    else if line.length + gap + word.length ≤ width then
      fillLines width rest (line ++ spaces gap ++ word)
    else line :: fillLines width rest word

def wrap (width : Nat) (text : Text) : List Text := fillLines width (spacedWords text) ""

def indented (count : Nat) (line : Text) : Text := spaces count ++ line

def rowLines (firstWidth : Nat) (row : Text × Text) : List Text :=
  let lines := wrap (pageWidth - firstWidth - 2) row.2
  let continued := lines.map (indented (firstWidth + 2))
  if row.1.length + 2 ≤ firstWidth then
    match lines with
    | first :: _ =>
      indented 2 (row.1 ++ spaces (firstWidth - row.1.length) ++ first) :: continued.drop 1
    | [] => [indented 2 row.1]
  else indented 2 row.1 :: continued

def tableLines (rows : List (Text × Text)) : List Text :=
  let widest := (rows.map fun row => row.1.length).foldl max 0
  rows.flatMap (rowLines (min widest columnLimit + 2))

def usageLine (command : Command) : Text := "Usage: " ++ command.path ++ " " ++ command.usage

def optionRows (command : Command) : List (Text × Text) :=
  command.options.map fun option => (option.heading, option.help)

def helpLines (command : Command) : List Text :=
  usageLine command :: "" :: indented 2 command.description :: "" :: "Options:" ::
    tableLines (optionRows command)

def rootHelpLines : List Text :=
  let listed : List Text :=
    "" :: "Commands:" :: tableLines (commands.map fun (name, summary, _) => (name, summary))
  helpLines root ++ listed

end DtoForge.CommandLine
