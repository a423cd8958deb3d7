import DtoForge.Schema.Basic
import Mathlib.Data.List.Sort
import Mathlib.Data.List.Lex

/-!
A set of names as a list: strictly ascending, so that a set is written in one way only. Texts are
ordered by the codes of their code points.
-/

namespace DtoForge

theorem Text.codes_injective : Function.Injective Text.codes := by
  intro left right same
  exact Text.to_list_inj.mp (List.map_injective_iff.mpr CodePoint.to_nat_injective same)

instance : LinearOrder Text where
  __ := LinearOrder.lift' Text.codes Text.codes_injective
  toLT := Text.instLT

theorem insert_name_ascending (name : Text) (names : List Text)
    (ascending : names.Pairwise (· < ·)) : (insertName name names).Pairwise (· < ·) := by
  induction names with
  | nil => exact List.pairwise_singleton _ _
  | cons other rest induction =>
      obtain ⟨above, ascendingRest⟩ := List.pairwise_cons.mp ascending
      unfold insertName
      split
      · rename_i before
        refine List.pairwise_cons.mpr ⟨?_, ascending⟩
        intro later member
        rcases List.mem_cons.mp member with rfl | member
        · exact before
        · exact before.trans (above later member)
      split
      · exact ascending
      · rename_i notBefore differ
        refine List.pairwise_cons.mpr ⟨?_, induction ascendingRest⟩
        intro later member
        rcases (mem_insert_name name later rest).mp member with rfl | member
        · exact lt_of_le_of_ne (not_lt.mp notBefore) (Ne.symm differ)
        · exact above later member

theorem name_set_ascending (names : List Text) : (nameSet names).Pairwise (· < ·) := by
  induction names with
  | nil => exact List.Pairwise.nil
  | cons name rest induction => exact insert_name_ascending name (nameSet rest) induction

theorem name_set_congr {left right : List Text} (same : ∀ name, name ∈ left ↔ name ∈ right) :
    nameSet left = nameSet right := by
  apply List.Pairwise.eq_of_mem_iff (name_set_ascending left) (name_set_ascending right)
  intro name
  rw [mem_name_set, mem_name_set, same]

end DtoForge
