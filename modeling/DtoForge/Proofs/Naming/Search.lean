import DtoForge.Proofs.Naming.Fresh
import Mathlib.Data.Finset.Card
import Mathlib.Data.Finset.Dedup
import Mathlib.Order.Bounds.Basic

/-!
The search for a free name comes to an end. Counting up has no bound of its own: it goes on as long
as the numbered form is taken. It stops at the least free number, which is at most one more than
there are taken names, since the candidate itself is one of them. Taken names count as a set, so
neither their order nor how often one is listed matters. Which of several candidates keeps its plain
form depends on the order in which they come; nothing is said about that here.
-/

namespace DtoForge.Naming

/-- Counting up from a number leads to the first one whose form is free. -/
inductive CountsTo (candidate : Text) (taken : List Text) : Nat → Nat → Prop where
  | stop {number : Nat} (free : numbered candidate number ∉ taken) :
      CountsTo candidate taken number number
  | next {number last : Nat} (held : numbered candidate number ∈ taken)
      (rest : CountsTo candidate taken (number + 1) last) : CountsTo candidate taken number last

variable {candidate : Text} {taken : List Text} {qualifier : Option Text}

/-! ### Counting up -/

theorem CountsTo.least {start last : Nat} (counted : CountsTo candidate taken start last) :
    IsLeast (freeNumbers candidate taken start) last := by
  induction counted with
  | stop free => exact ⟨⟨le_rfl, free⟩, fun other held => held.1⟩
  | @next number last held rest induction =>
      obtain ⟨⟨after, free⟩, least⟩ := induction
      refine ⟨⟨Nat.le_of_succ_le after, free⟩, ?_⟩
      rintro other ⟨start, otherFree⟩
      -- The number that counting has passed is not free, so a free one lies behind it.
      rcases Nat.eq_or_lt_of_le start with rfl | behind
      · exact absurd held otherFree
      · exact least ⟨behind, otherFree⟩

theorem counts_to_least {start number : Nat}
    (least : IsLeast (freeNumbers candidate taken start) number) :
    CountsTo candidate taken start number := by
  obtain ⟨⟨after, free⟩, least⟩ := least
  -- Downwards from the free number: each number above the start is passed on the way to it.
  refine Nat.decreasingInduction' (P := (CountsTo candidate taken · number)) ?_ after (.stop free)
  intro passed below fromStart rest
  apply CountsTo.next _ rest
  by_contra passedFree
  have bound := least ⟨fromStart, passedFree⟩
  omega

theorem counts_to_iff_least {start number : Nat} :
    CountsTo candidate taken start number ↔ IsLeast (freeNumbers candidate taken start) number :=
  ⟨CountsTo.least, counts_to_least⟩

/-! ### How far -/

theorem numbered_ne_candidate (candidate : Text) (number : Nat) :
    numbered candidate number ≠ candidate := by
  intro same
  exact Nat.repr_ne_empty (Text.of_string_inj.mp (Text.append_eq_left_iff.mp same))

/-- A candidate and its numbered forms fill the taken names one by one. -/
theorem taken_forms_bound {count : Nat} (held : candidate ∈ taken)
    (covered : numberedForms candidate count ⊆ taken) : count + 1 ≤ taken.toFinset.card := by
  have apart : candidate ∉ numberedForms candidate count := by
    intro member
    obtain ⟨n, -, same⟩ := List.mem_map.mp member
    exact numbered_ne_candidate candidate (n + 2) same
  have distinct : (candidate :: numberedForms candidate count).Nodup :=
    List.nodup_cons.mpr ⟨apart, numbered_forms_distinct candidate count⟩
  calc count + 1 = (candidate :: numberedForms candidate count).length := by simp [numberedForms]
    _ = (candidate :: numberedForms candidate count).toFinset.card :=
        (List.toFinset_card_of_nodup distinct).symm
    _ ≤ taken.toFinset.card := by
        apply Finset.card_le_card
        intro name member
        rw [List.mem_toFinset] at member ⊢
        exact List.cons_subset.mpr ⟨held, covered⟩ member

theorem least_number_bound {number : Nat} (held : candidate ∈ taken)
    (least : IsLeast (freeNumbers candidate taken 2) number) :
    number ≤ taken.toFinset.card + 1 := by
  have covered : numberedForms candidate (number - 2) ⊆ taken := by
    intro name member
    obtain ⟨n, bound, rfl⟩ := List.mem_map.mp member
    by_contra free
    have first := least.2 ⟨Nat.le_add_left 2 n, free⟩
    have below := List.mem_range.mp bound
    omega
  have filled := taken_forms_bound held covered
  omega

/-! ### Taken names as a set -/

theorem first_free_congr {others : List Text} (same : ∀ name, name ∈ others ↔ name ∈ taken) :
    firstFree candidate others = firstFree candidate taken := by
  obtain ⟨number, chosen, least⟩ := first_free_least candidate taken
  obtain ⟨other, otherChosen, otherLeast⟩ := first_free_least candidate others
  have sameNumbers : freeNumbers candidate others 2 = freeNumbers candidate taken 2 := by
    simp only [freeNumbers, same]
  rw [sameNumbers] at otherLeast
  rw [chosen, otherChosen, otherLeast.unique least]

theorem uniquify_congr {others : List Text} (same : ∀ name, name ∈ others ↔ name ∈ taken) :
    uniquify candidate others qualifier = uniquify candidate taken qualifier := by
  have contains (name : Text) : others.contains name = taken.contains name := by
    rw [Bool.eq_iff_iff, List.contains_iff_mem, List.contains_iff_mem, same]
  simp only [uniquify, contains, first_free_congr same]

/-! ### The name that is chosen -/

/-- Which name is chosen: the candidate, the qualified candidate, or the candidate with the number
that counting up from two leads to. -/
structure EndsFree (candidate : Text) (taken : List Text) (qualifier : Option Text) : Prop where
  free : uniquify candidate taken qualifier ∉ taken
  plain : candidate ∉ taken → uniquify candidate taken qualifier = candidate
  qualified : candidate ∈ taken → ∀ front ∈ qualifier, front ≠ "" → front ++ candidate ∉ taken →
    uniquify candidate taken qualifier = front ++ candidate
  numbered : candidate ∈ taken → (∀ front ∈ qualifier, front = "" ∨ front ++ candidate ∈ taken) →
    ∃ number, (∀ last, CountsTo candidate taken 2 last ↔ last = number) ∧
      uniquify candidate taken qualifier = numbered candidate number ∧
      IsLeast (freeNumbers candidate taken 2) number ∧ number ≤ taken.toFinset.card + 1
  asSet : ∀ others : List Text, others.toFinset = taken.toFinset →
    uniquify candidate others qualifier = uniquify candidate taken qualifier

theorem ends_free (candidate : Text) (taken : List Text) (qualifier : Option Text) :
    EndsFree candidate taken qualifier where
  free := uniquify_not_mem candidate taken qualifier
  plain free := uniquify_of_free free qualifier
  qualified := by
    rintro held front rfl nonempty free
    exact uniquify_qualified held nonempty free
  numbered := by
    intro held useless
    obtain ⟨number, chosen, least⟩ := first_free_least candidate taken
    refine ⟨number, fun last => ?_, (uniquify_first_free held useless).trans chosen, least,
      least_number_bound held least⟩
    rw [counts_to_iff_least]
    exact ⟨fun other => other.unique least, fun same => same ▸ least⟩
  asSet := by
    intro others same
    apply uniquify_congr
    intro name
    rw [← List.mem_toFinset, same, List.mem_toFinset]

/-- Every search for a name ends with the first that is free, and names chosen one after the other
differ from each other and from those taken before. -/
theorem searches_end_free (taken : List Text) :
    (∀ (candidate : Text) (qualifier : Option Text), EndsFree candidate taken qualifier) ∧
      ∀ requests : List (Text × Option Text),
        (choices requests taken).Nodup ∧ (choices requests taken).Disjoint taken := by
  constructor
  · intro candidate qualifier
    exact ends_free candidate taken qualifier
  · intro requests
    exact ⟨choices_distinct requests taken, fun name => choices_not_mem requests taken name⟩

/-- The qualified form and the first two numbers are taken, in any order; the names chosen next meet
numbered forms that were chosen before. -/
theorem users_end_free :
    let taken : List Text := ["User", "User3", "ProfileUser", "User2"]
    ("User" : Text) ∈ taken ∧ (∀ front ∈ some ("Profile" : Text), front = "" ∨
      front ++ "User" ∈ taken) ∧
      EndsFree "User" taken (some "Profile") ∧ CountsTo "User" taken 2 4 ∧
      uniquify "User" taken (some "Profile") = "User4" ∧
      let requests : List (Text × Option Text) :=
        [("User", none), ("User", some "Order"), ("User", some ""), ("User2", none)]
      choices requests taken = [("User4" : Text), "OrderUser", "User5", "User22"] ∧
        (choices requests taken).Nodup ∧ (choices requests taken).Disjoint taken := by
  have counted : CountsTo "User" ["User", "User3", "ProfileUser", "User2"] 2 4 :=
    .next (by decide) (.next (by decide) (.stop (by decide)))
  exact ⟨by decide, by decide, (searches_end_free _).1 _ _, counted, by decide +kernel,
    by decide +kernel, (searches_end_free _).2 _⟩

end DtoForge.Naming
