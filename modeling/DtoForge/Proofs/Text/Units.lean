import DtoForge.Text.Units
import Mathlib.Data.List.Chain

/-!
Units read back. A high surrogate directly before a low one has the units of one character, so a
text that holds the two apart shares its units with another text. Texts without such a pair have
units of their own; in particular those made of characters have.
-/

namespace DtoForge

def IsHigh (unit : Nat) : Prop := 0xd800 ≤ unit ∧ unit < 0xdc00

def IsLow (unit : Nat) : Prop := 0xdc00 ≤ unit ∧ unit < 0xe000

instance (unit : Nat) : Decidable (IsHigh unit) := inferInstanceAs (Decidable (_ ∧ _))

instance (unit : Nat) : Decidable (IsLow unit) := inferInstanceAs (Decidable (_ ∧ _))

/-- Code points without a high surrogate directly before a low one. -/
def PairFree (points : List CodePoint) : Prop :=
  points.IsChain fun point next => ¬(IsHigh point.toNat ∧ IsLow next.toNat)

instance (points : List CodePoint) : Decidable (PairFree points) :=
  inferInstanceAs (Decidable (List.IsChain _ _))

def Text.PairFree (text : Text) : Prop := DtoForge.PairFree text.toList

instance (text : Text) : Decidable text.PairFree :=
  inferInstanceAs (Decidable (DtoForge.PairFree _))

def joined (high low : Nat) : CodePoint :=
  .ofNat (0x10000 + (high - 0xd800) * 0x400 + (low - 0xdc00))

/-- The code points of some units; a high unit takes the low one after it. -/
def pointsOf : List Nat → List CodePoint
  | high :: low :: rest =>
    if IsHigh high ∧ IsLow low then joined high low :: pointsOf rest
    else .ofNat high :: pointsOf (low :: rest)
  | [unit] => [.ofNat unit]
  | [] => []

theorem points_of_single {unit : Nat} {rest : List Nat}
    (alone : IsHigh unit → ∀ low ∈ rest.head?, ¬ IsLow low) :
    pointsOf (unit :: rest) = .ofNat unit :: pointsOf rest := by
  cases rest with
  | nil => rfl
  | cons low rest =>
      rw [pointsOf, if_neg]
      rintro ⟨high, pair⟩
      exact alone high low rfl pair

theorem points_of_char (c : Char) (rest : List Nat) :
    pointsOf ((CodePoint.char c).units ++ rest) = .char c :: pointsOf rest := by
  have outside := CodePoint.not_reserved c
  have code : CodePoint.ofNat c.toNat = .char c := CodePoint.of_nat_to_nat (.char c)
  rw [CodePoint.units]
  split
  · rw [List.singleton_append, points_of_single, code]
    intro high
    exact absurd ⟨high.1, Nat.lt_trans high.2 (by decide)⟩ outside
  · have range : c.toNat < 0xd800 ∨ 0xdfff < c.toNat ∧ c.toNat < 0x110000 := c.valid
    have pair : IsHigh (0xd800 + (c.toNat - 0x10000) / 0x400) ∧
        IsLow (0xdc00 + (c.toNat - 0x10000) % 0x400) := by
      unfold IsHigh IsLow
      omega
    have whole : 0x10000 + (0xd800 + (c.toNat - 0x10000) / 0x400 - 0xd800) * 0x400 +
        (0xdc00 + (c.toNat - 0x10000) % 0x400 - 0xdc00) = c.toNat := by omega
    rw [List.cons_append, List.singleton_append, pointsOf, if_pos pair, joined, whole, code]

theorem low_of_head_units {c : CodePoint} {unit : Nat} {rest : List Nat}
    (first : unit ∈ (c.units ++ rest).head?) (low : IsLow unit) : IsLow c.toNat := by
  cases c with
  | char c =>
      have range : c.toNat < 0xd800 ∨ 0xdfff < c.toNat ∧ c.toNat < 0x110000 := c.valid
      rw [CodePoint.units] at first
      split at first
      · cases first
        exact low
      · cases first
        unfold IsLow at low
        omega
  | surrogate offset =>
      cases first
      exact low

/-- Code points without a pair are what their units are read as. -/
theorem points_of_units {points : List CodePoint} (free : PairFree points) :
    pointsOf (points.flatMap CodePoint.units) = points := by
  induction points with
  | nil => rfl
  | cons c rest induction =>
      have later := induction free.tail
      rw [List.flatMap_cons]
      cases c with
      | char c => rw [points_of_char, later]
      | surrogate offset =>
          have code : CodePoint.ofNat (0xd800 + offset) = .surrogate offset :=
            CodePoint.of_nat_to_nat (.surrogate offset)
          rw [CodePoint.units, List.singleton_append, points_of_single, later, code]
          intro high low first pair
          cases rest with
          | nil => cases first
          | cons next rest =>
              rw [List.flatMap_cons] at first
              exact (List.isChain_cons_cons.mp free).1 ⟨high, low_of_head_units first pair⟩

namespace Text

/-- Texts without pairs are told apart by their units. -/
theorem units_inj {left right : Text} (leftFree : left.PairFree) (rightFree : right.PairFree)
    (same : left.units = right.units) : left = right := by
  rw [← to_list_inj, ← points_of_units leftFree, ← points_of_units rightFree]
  exact congrArg pointsOf same

theorem pair_free_of_string (string : String) : (ofString string).PairFree := by
  refine List.Pairwise.isChain (List.pairwise_of_forall_mem_list ?_)
  intro point held next _ ⟨high, _⟩
  obtain ⟨c, -, rfl⟩ := List.mem_map.mp held
  exact CodePoint.not_reserved c ⟨high.1, Nat.lt_trans high.2 (by decide)⟩

end Text

def partedFace : Text := ⟨[.ofNat 0xd83d, .ofNat 0xde00]⟩

example : partedFace.units = Text.units "😀" ∧ partedFace ≠ "😀" := by decide

end DtoForge
