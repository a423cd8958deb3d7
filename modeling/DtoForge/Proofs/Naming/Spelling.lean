import DtoForge.Proofs.Naming.Fresh

/-!
How chosen names are spelled: they are never empty and hold ASCII letters and digits only, whatever
the raw name was. Qualifying and numbering keep this. The stem of a file name is such a name in
lower case, with underscores at its humps.
-/

namespace DtoForge.Naming

def IsWord (chars : List CodePoint) : Prop := chars ≠ [] ∧ ∀ c ∈ chars, isWordChar c = true

def Plain (name : Text) : Prop := IsWord name.toList

theorem plain_of_all {name : Text} (some : name.toList ≠ [])
    (all : name.toList.all isWordChar = true) : Plain name :=
  ⟨some, List.all_eq_true.mp all⟩

theorem word_char_ascii {c : CodePoint} (plain : isWordChar c = true) : c.toNat < 128 := by
  obtain ⟨d, rfl, letter⟩ := CodePoint.is_char_iff.mp plain
  have ranges : (decide (65 ≤ d.val ∧ d.val ≤ 90) ||
      (decide (97 ≤ d.val) && decide (d.val ≤ 122)) ||
        (decide (48 ≤ d.val) && decide (d.val ≤ 57))) = true := letter
  have value : d.val.toNat = (CodePoint.char d).toNat := rfl
  simp only [Bool.or_eq_true, Bool.and_eq_true, decide_eq_true_eq, UInt32.le_iff_toNat_le,
    UInt32.reduceToNat, value] at ranges
  omega

theorem ascii_forall (holds : CodePoint → Prop) (each : ∀ n < 128, holds (.ofNat n))
    {c : CodePoint} (ascii : c.toNat < 128) : holds c := by
  have held := each c.toNat ascii
  rwa [CodePoint.of_nat_to_nat] at held

def isDigit : CodePoint → Bool := CodePoint.isChar Char.isDigit

theorem is_word_char_to_upper {c : CodePoint} (plain : isWordChar c = true) :
    isWordChar (toUpper c) = true :=
  ascii_forall (fun c => isWordChar c = true → isWordChar (toUpper c) = true) (by decide)
    (word_char_ascii plain) plain

theorem IsWord.cons {c : CodePoint} {rest : List CodePoint} (first : isWordChar c = true)
    (others : ∀ d ∈ rest, isWordChar d = true) : IsWord (c :: rest) :=
  ⟨List.cons_ne_nil _ _, List.forall_mem_cons.mpr ⟨first, others⟩⟩

theorem words_are_words (chars : List CodePoint) : ∀ word ∈ words chars, IsWord word := by
  fun_induction words chars with
  | case1 => exact List.forall_mem_nil _
  | case2 c rest plain next word others cut head plainNext induction =>
      rw [cut, List.forall_mem_cons] at induction
      exact List.forall_mem_cons.mpr ⟨.cons plain induction.1.2, induction.2⟩
  | case3 c rest plain next word others cut head separated induction =>
      rw [cut] at induction
      exact List.forall_mem_cons.mpr ⟨.cons plain (List.forall_mem_nil _), induction⟩
  | case4 c rest plain alone induction =>
      exact List.forall_mem_cons.mpr ⟨.cons plain (List.forall_mem_nil _), induction⟩
  | case5 c rest separator induction => exact induction

theorem IsWord.capitalize {word : List CodePoint} (plain : IsWord word) :
    ∀ c ∈ capitalize word, isWordChar c = true := by
  cases word with
  | nil => exact List.forall_mem_nil _
  | cons c rest =>
      obtain ⟨first, others⟩ := List.forall_mem_cons.mp plain.2
      exact List.forall_mem_cons.mpr ⟨is_word_char_to_upper first, others⟩

theorem type_name_plain (raw : Text) : Plain (typeName raw) := by
  unfold typeName
  split
  · exact plain_of_all (by decide) (by decide)
  · rename_i name nonempty
    refine ⟨by simpa using nonempty, ?_⟩
    intro c member
    rw [List.mem_flatMap] at member
    obtain ⟨word, held, inner⟩ := member
    exact (words_are_words _ word held).capitalize c inner

theorem word_char_of_digit {c : CodePoint} (digit : isDigit c = true) : isWordChar c = true := by
  obtain ⟨d, rfl, numeral⟩ := CodePoint.is_char_iff.mp digit
  simp [isWordChar, CodePoint.isChar, Char.isAlphanum, numeral]

theorem is_digit_of_mem (number : Nat) :
    ∀ c ∈ (Text.ofString (toString number)).toList, isDigit c = true := by
  intro c member
  obtain ⟨d, listed, rfl⟩ := List.mem_map.mp member
  have digits : d ∈ Nat.toDigits 10 number := by simpa using listed
  exact Nat.isDigit_of_mem_toDigits (by decide) (by decide) digits

theorem digits_plain (number : Nat) :
    ∀ c ∈ (Text.ofString (toString number)).toList, isWordChar c = true :=
  fun c member => word_char_of_digit (is_digit_of_mem number c member)

theorem Plain.ne_empty {name : Text} (plain : Plain name) : name ≠ "" := by
  rintro rfl
  exact plain.1 rfl

theorem Plain.append {left right : Text} (plain : Plain left)
    (after : ∀ c ∈ right.toList, isWordChar c = true) : Plain (left ++ right) := by
  constructor
  · rw [Text.to_list_append]
    exact List.append_ne_nil_of_left_ne_nil plain.1 _
  · rw [Text.to_list_append, List.forall_mem_append]
    exact ⟨plain.2, after⟩

theorem uniquify_keeps (holds : Text → Prop) {candidate : Text} {qualifier : Option Text}
    (start : holds candidate) (numbers : ∀ number, holds (numbered candidate number))
    (qualified : ∀ name ∈ qualifier, holds (name ++ candidate)) (taken : List Text) :
    holds (uniquify candidate taken qualifier) := by
  rcases uniquify_shape candidate taken qualifier with ⟨-, same⟩ | ⟨front, given, -, same⟩ | same
  · rw [same]
    exact start
  · rw [same]
    exact qualified front given
  · obtain ⟨number, chosen, -⟩ := first_free_least candidate taken
    rw [same, chosen]
    exact numbers number

theorem uniquify_cases (candidate : Text) (taken : List Text) :
    uniquify candidate taken = candidate ∨
      ∃ number, uniquify candidate taken = numbered candidate number :=
  (uniquify_numbered candidate taken).imp_right fun ⟨number, _, same⟩ => ⟨number, same⟩

/-! ### File stems -/

def IsStem (chars : List CodePoint) : Prop := ∀ c ∈ chars, isWordChar c = true ∨ c = .char '_'

instance (chars : List CodePoint) : Decidable (IsStem chars) :=
  decidable_of_iff (chars.all fun c => isWordChar c || c == .char '_') (by simp [IsStem])

theorem Plain.stem {name : Text} (plain : Plain name) : IsStem name.toList :=
  fun c member => Or.inl (plain.2 c member)

/-- The stem of a file name: not empty, and in lower case. -/
def IsFileStem (chars : List CodePoint) : Prop :=
  chars ≠ [] ∧ ∀ c ∈ chars, isLower c = true ∨ isDigit c = true ∨ c = .char '_'

theorem IsFileStem.stem {chars : List CodePoint} (stem : IsFileStem chars) : IsStem chars := by
  intro c member
  rcases stem.2 c member with lower | digit | underscore
  · obtain ⟨d, rfl, small⟩ := CodePoint.is_char_iff.mp lower
    have letter : d.isAlpha = (d.isUpper || d.isLower) := rfl
    exact Or.inl (by simp [isWordChar, CodePoint.isChar, Char.isAlphanum, letter, small])
  · exact Or.inl (word_char_of_digit digit)
  · exact Or.inr underscore

/-- Lower case keeps to ASCII here; the letters with a case of their own are not in it. -/
theorem lower_after_ascii (before chars : List CodePoint) (ascii : ∀ c ∈ chars, c.toNat < 128) :
    Text.lowerAfter before chars = chars.map toLower := by
  induction chars generalizing before with
  | nil => rfl
  | cons c rest induction =>
      obtain ⟨first, others⟩ := List.forall_mem_cons.mp ascii
      have noSigma : c ≠ 'Σ' := by
        rintro rfl
        exact absurd first (by decide)
      have noDotted : c ≠ 'İ' := by
        rintro rfl
        exact absurd first (by decide)
      have lowered : c.mapChar Text.lowerChar = toLower c := by
        cases c with
        | char d => exact congrArg CodePoint.char (Text.lower_char_ascii d first)
        | surrogate offset => rfl
      rw [Text.lowerAfter, if_neg noSigma, if_neg noDotted, lowered, induction _ others]
      rfl

theorem lowered_word_char {c : CodePoint} (plain : isWordChar c = true) :
    isLower (toLower c) = true ∨ isDigit (toLower c) = true :=
  ascii_forall
    (fun c => isWordChar c = true → isLower (toLower c) = true ∨ isDigit (toLower c) = true)
    (by decide) (word_char_ascii plain) plain

theorem humps_flatten (chars : List CodePoint) : (humps chars).flatten = chars := by
  fun_induction humps chars with
  | case1 => rfl
  | case2 c rest next hump others cut head turn induction =>
      rw [cut] at induction
      simpa using induction
  | case3 c rest next hump others cut head level induction =>
      rw [cut] at induction
      simpa using induction
  | case4 c rest missing induction =>
      cases rest with
      | nil => rfl
      | cons next rest =>
          cases pieces : humps (next :: rest) with
          | nil => simp [pieces] at induction
          | cons hump others => exact (missing next hump others rfl pieces).elim

theorem flatten_sublist_intercalate (separator : List CodePoint) (parts : List (List CodePoint)) :
    parts.flatten.Sublist (separator.intercalate parts) := by
  induction parts with
  | nil => exact List.Sublist.refl _
  | cons part rest induction =>
      cases rest with
      | nil => simp
      | cons next rest =>
          rw [List.intercalate_cons_cons, List.flatten_cons]
          exact (List.sublist_append_left part separator).append induction

theorem mem_intercalate {separator : List CodePoint} {parts : List (List CodePoint)} {c : CodePoint}
    (member : c ∈ separator.intercalate parts) : c ∈ separator ∨ c ∈ parts.flatten := by
  induction parts with
  | nil => cases member
  | cons part rest induction =>
      rw [List.flatten_cons, List.mem_append]
      cases rest with
      | nil =>
          rw [List.intercalate_singleton] at member
          exact Or.inr (Or.inl member)
      | cons next rest =>
          rw [List.intercalate_cons_cons, List.mem_append, List.mem_append] at member
          rcases member with (first | between) | others
          · exact Or.inr (Or.inl first)
          · exact Or.inl between
          · exact (induction others).imp id Or.inr

theorem snake_case_stem {name : Text} (plain : Plain name) :
    IsFileStem (snakeCase name).toList := by
  have ascii : ∀ hump ∈ humps name.toList, ∀ c ∈ hump, c.toNat < 128 := by
    intro hump held c member
    have inner := List.mem_flatten_of_mem held member
    rw [humps_flatten] at inner
    exact word_char_ascii (plain.2 c inner)
  have lowered : (humps name.toList).map Text.lowerPoints =
      (humps name.toList).map (List.map toLower) :=
    List.map_congr_left fun hump held => lower_after_ascii [] hump (ascii hump held)
  have joined : ((humps name.toList).map (List.map toLower)).flatten =
      name.toList.map toLower := by
    rw [← List.map_flatten, humps_flatten]
  rw [snakeCase, Text.to_list_of_list, lowered]
  constructor
  · intro bare
    have inner := flatten_sublist_intercalate [.char '_']
        ((humps name.toList).map (List.map toLower))
    rw [bare, joined, List.sublist_nil, List.map_eq_nil_iff] at inner
    exact plain.1 inner
  · intro c member
    rcases mem_intercalate member with between | inner
    · exact Or.inr (Or.inr (List.mem_singleton.mp between))
    · rw [joined] at inner
      obtain ⟨d, held, rfl⟩ := List.mem_map.mp inner
      exact (lowered_word_char (plain.2 d held)).imp id Or.inl

theorem uniquify_stem {candidate : Text} (stem : IsFileStem candidate.toList)
    (taken : List Text) : IsFileStem (uniquify candidate taken).toList := by
  have numbers (number : Nat) : IsFileStem (numbered candidate number).toList := by
    rw [numbered, Text.to_list_append]
    refine ⟨List.append_ne_nil_of_left_ne_nil stem.1 _, List.forall_mem_append.mpr ⟨stem.2, ?_⟩⟩
    exact fun c member => Or.inr (Or.inl (is_digit_of_mem number c member))
  exact uniquify_keeps (fun name => IsFileStem name.toList) stem numbers (by simp) taken

end DtoForge.Naming
