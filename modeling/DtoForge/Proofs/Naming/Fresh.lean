import DtoForge.Naming
import Mathlib.Data.List.Nodup
import Mathlib.Order.Bounds.Defs

/-!
A chosen name is never one of the taken names. The numbered forms of one candidate are pairwise
distinct, so of one more of them than there are taken names at least one is free, and the least free
number is the one that is used. Names chosen one after the other differ from each other.
-/

namespace DtoForge.Naming

theorem numbered_injective (candidate : Text) : Function.Injective (numbered candidate) := by
  intro left right same
  have digits : left.repr = right.repr :=
    Text.of_string_inj.mp ((Text.append_right_inj candidate).mp same)
  have values := congrArg (fun text => Nat.ofDigitChars 10 text.toList 0) digits
  simpa using values

def numberedForms (candidate : Text) (count : Nat) : List Text :=
  (List.range count).map fun n => numbered candidate (n + 2)

theorem numbered_forms_distinct (candidate : Text) (count : Nat) :
    (numberedForms candidate count).Nodup := by
  apply List.Nodup.map _ List.nodup_range
  intro left right same
  have shifted := numbered_injective candidate same
  omega

theorem numbered_forms_not_subset (candidate : Text) (taken : List Text) :
    ¬ numberedForms candidate (taken.length + 1) ⊆ taken := by
  intro covered
  have bound := (numbered_forms_distinct candidate (taken.length + 1)).length_le_of_subset covered
  simp only [numberedForms, List.length_map, List.length_range] at bound
  omega

/-! ### The least free number -/

def freeNumbers (candidate : Text) (taken : List Text) (start : Nat) : Set Nat :=
  {number | start ≤ number ∧ numbered candidate number ∉ taken}

theorem least_free_number {candidate : Text} {taken : List Text} {count : Nat}
    (earlier : ∀ n < count, numbered candidate (n + 2) ∈ taken)
    (free : numbered candidate (count + 2) ∉ taken) :
    IsLeast (freeNumbers candidate taken 2) (count + 2) := by
  refine ⟨⟨Nat.le_add_left 2 count, free⟩, ?_⟩
  rintro other ⟨start, otherFree⟩
  by_contra below
  have held := earlier (other - 2) (by omega)
  rw [Nat.sub_add_cancel start] at held
  exact otherFree held

theorem first_free_least (candidate : Text) (taken : List Text) :
    ∃ number, firstFree candidate taken = numbered candidate number ∧
      IsLeast (freeNumbers candidate taken 2) number := by
  unfold firstFree
  split
  · rename_i n found
    obtain ⟨free, -, earlier⟩ := List.find?_range_eq_some.mp found
    exact ⟨_, rfl, least_free_number (by simpa using earlier) (by simpa using free)⟩
  · rename_i exhausted
    have earlier : ∀ n < taken.length, numbered candidate (n + 2) ∈ taken := by
      simpa using List.find?_range_eq_none.mp exhausted
    refine ⟨_, rfl, least_free_number earlier fun last => ?_⟩
    apply numbered_forms_not_subset candidate taken
    intro name member
    obtain ⟨n, bound, rfl⟩ := List.mem_map.mp member
    rcases Nat.lt_succ_iff_lt_or_eq.mp (List.mem_range.mp bound) with before | rfl
    · exact earlier n before
    · exact last

theorem first_free_not_mem (candidate : Text) (taken : List Text) :
    firstFree candidate taken ∉ taken := by
  obtain ⟨number, chosen, least⟩ := first_free_least candidate taken
  rw [chosen]
  exact least.1.2

/-! ### The name that is chosen -/

section Choice

variable {candidate : Text} {taken : List Text} {qualifier : Option Text}

theorem uniquify_of_free (free : candidate ∉ taken) (qualifier : Option Text) :
    uniquify candidate taken qualifier = candidate := by
  unfold uniquify
  rw [if_pos (by simpa using free)]

theorem uniquify_qualified {front : Text} (held : candidate ∈ taken) (nonempty : front ≠ "")
    (free : front ++ candidate ∉ taken) :
    uniquify candidate taken (some front) = front ++ candidate := by
  unfold uniquify
  rw [if_neg (by simpa using held)]
  exact if_pos ⟨nonempty, by simpa using free⟩

theorem uniquify_first_free (held : candidate ∈ taken)
    (useless : ∀ front ∈ qualifier, front = "" ∨ front ++ candidate ∈ taken) :
    uniquify candidate taken qualifier = firstFree candidate taken := by
  unfold uniquify
  rw [if_neg (by simpa using held)]
  cases qualifier with
  | none => rfl
  | some front =>
      refine if_neg ?_
      rintro ⟨nonempty, free⟩
      rcases useless front rfl with empty | qualifiedHeld
      · exact nonempty empty
      · simp [qualifiedHeld] at free

theorem uniquify_shape (candidate : Text) (taken : List Text) (qualifier : Option Text) :
    (candidate ∉ taken ∧ uniquify candidate taken qualifier = candidate) ∨
      (∃ front ∈ qualifier, front ++ candidate ∉ taken ∧
        uniquify candidate taken qualifier = front ++ candidate) ∨
      uniquify candidate taken qualifier = firstFree candidate taken := by
  by_cases held : candidate ∈ taken
  · right
    by_cases useless : ∀ front ∈ qualifier, front = "" ∨ front ++ candidate ∈ taken
    · exact Or.inr (uniquify_first_free held useless)
    · push Not at useless
      obtain ⟨front, rfl, nonempty, free⟩ := useless
      exact Or.inl ⟨front, rfl, free, uniquify_qualified held nonempty free⟩
  · exact Or.inl ⟨held, uniquify_of_free held qualifier⟩

theorem uniquify_numbered (candidate : Text) (taken : List Text) :
    uniquify candidate taken = candidate ∨
      ∃ number ≥ 2, uniquify candidate taken = numbered candidate number := by
  by_cases held : candidate ∈ taken
  · obtain ⟨number, chosen, least⟩ := first_free_least candidate taken
    have searched : uniquify candidate taken = firstFree candidate taken :=
      uniquify_first_free held (by simp)
    exact Or.inr ⟨number, least.1.1, searched.trans chosen⟩
  · exact Or.inl (uniquify_of_free held none)

theorem uniquify_not_mem (candidate : Text) (taken : List Text) (qualifier : Option Text) :
    uniquify candidate taken qualifier ∉ taken := by
  rcases uniquify_shape candidate taken qualifier with ⟨free, same⟩ | ⟨front, -, free, same⟩ | same
  · rwa [same]
  · rwa [same]
  · rw [same]
    exact first_free_not_mem candidate taken

end Choice

/-! ### Names one after the other -/

/-- One name for each candidate with its qualifier, in order. Each name is taken for those after
it. -/
def choices : List (Text × Option Text) → List Text → List Text
  | [], _ => []
  | (candidate, qualifier) :: rest, taken =>
    uniquify candidate taken qualifier :: choices rest (uniquify candidate taken qualifier :: taken)

theorem choices_not_mem (requests : List (Text × Option Text)) (taken : List Text) :
    ∀ name ∈ choices requests taken, name ∉ taken := by
  induction requests generalizing taken with
  | nil => exact List.forall_mem_nil _
  | cons request rest induction =>
      refine List.forall_mem_cons.mpr ⟨uniquify_not_mem _ _ _, ?_⟩
      intro name later old
      exact induction _ name later (List.mem_cons_of_mem _ old)

theorem choices_distinct (requests : List (Text × Option Text)) (taken : List Text) :
    (choices requests taken).Nodup := by
  induction requests generalizing taken with
  | nil => exact List.nodup_nil
  | cons request rest induction =>
      refine List.nodup_cons.mpr ⟨?_, induction _⟩
      intro again
      exact choices_not_mem rest _ _ again List.mem_cons_self

end DtoForge.Naming
