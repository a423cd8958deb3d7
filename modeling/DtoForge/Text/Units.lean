import DtoForge.Text.Basic

/-!
Texts as UTF-16 units. A character beyond the first plane has two units, which are surrogates.
-/

namespace DtoForge

def CodePoint.units : CodePoint → List Nat
  | .char c =>
    if c.toNat < 0x10000 then [c.toNat]
    else [0xd800 + (c.toNat - 0x10000) / 0x400, 0xdc00 + (c.toNat - 0x10000) % 0x400]
  | .surrogate offset => [0xd800 + offset]

def Text.units (text : Text) : List Nat := text.toList.flatMap CodePoint.units

end DtoForge
