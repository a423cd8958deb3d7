import DtoForge.Text.Basic

/-!
Cutting a text at every occurrence of one code point. Empty pieces are kept, so a text without the
code point is one piece.
-/

namespace DtoForge.Text

def pieces {α : Type} [DecidableEq α] (separator : α) : List α → List (List α)
  | [] => [[]]
  | c :: rest =>
    if c = separator then [] :: pieces separator rest
    else
      match pieces separator rest with
      | [] => [[c]]
      | piece :: others => (c :: piece) :: others

def split (separator : CodePoint) (text : Text) : List Text :=
  (pieces separator text.toList).map ofList

end DtoForge.Text
