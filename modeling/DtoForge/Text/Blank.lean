import DtoForge.Text.CodeRange

/-!
White space and its removal from both ends of a text. Blank are the characters with the Unicode
property White_Space together with the four information separators U+001C to U+001F.
-/

namespace DtoForge.Text

def blankRanges : List CodeRange :=
  [⟨0x9, 0xd⟩, ⟨0x1c, 0x20⟩, ⟨0x85, 0x85⟩, ⟨0xa0, 0xa0⟩, ⟨0x1680, 0x1680⟩, ⟨0x2000, 0x200a⟩,
    ⟨0x2028, 0x2029⟩, ⟨0x202f, 0x202f⟩, ⟨0x205f, 0x205f⟩, ⟨0x3000, 0x3000⟩]

def isBlank (c : CodePoint) : Bool := CodeRange.anyHolds blankRanges c

/-- The characters with the property White_Space alone. -/
def isWhiteSpace (c : CodePoint) : Bool := isBlank c && !(0x1c ≤ c.toNat && c.toNat ≤ 0x1f)

def trimPoints (drops : CodePoint → Bool) (points : List CodePoint) : List CodePoint :=
  (((points.dropWhile drops).reverse).dropWhile drops).reverse

def strip (text : Text) : Text := Text.ofList (trimPoints isBlank text.toList)

end DtoForge.Text
