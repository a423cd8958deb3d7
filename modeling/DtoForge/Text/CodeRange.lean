import DtoForge.Text.Basic

/-!
Sets of code points given as ranges. The tables of the `Text` modules are lists of
such ranges in ascending order; nothing here depends on the order.
-/

namespace DtoForge.Text

/-- From `first` to `last`, both included. -/
structure CodeRange where
  first : Nat
  last : Nat
  deriving Repr, DecidableEq

namespace CodeRange

def holds (range : CodeRange) (c : CodePoint) : Bool :=
  range.first ≤ c.toNat && c.toNat ≤ range.last

def anyHolds (table : List CodeRange) (c : CodePoint) : Bool := table.any (·.holds c)

theorem any_holds_iff (table : List CodeRange) (c : CodePoint) :
    anyHolds table c = true ↔ ∃ range ∈ table, range.first ≤ c.toNat ∧ c.toNat ≤ range.last := by
  simp [anyHolds, holds]

end CodeRange

end DtoForge.Text
