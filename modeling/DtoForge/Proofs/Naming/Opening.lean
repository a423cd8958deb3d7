import DtoForge.Proofs.Naming.Spelling

/-!
How chosen names open. The words of a raw name hold all its letters and digits in order, so a chosen
name opens with the first of them, but for letter case; a raw name without any gets a fixed name.
Qualifying puts a chosen name in front and numbering touches the end only. Nothing of this keeps a
name from opening with a digit.
-/

namespace DtoForge.Naming

def opensWithDigit (name : Text) : Bool := (name.toList.find? isWordChar).any isDigit

/-! ### The first letter or digit of a raw name -/

theorem words_flatten (chars : List CodePoint) :
    (words chars).flatten = chars.filter isWordChar := by
  fun_induction words chars with
  | case1 => rfl
  | case2 c rest plain next word others cut head plainNext induction =>
      rw [cut] at induction
      rw [List.filter_cons_of_pos plain, ← induction]
      rfl
  | case3 c rest plain next word others cut head separated induction =>
      rw [cut] at induction
      rw [List.filter_cons_of_pos plain, ← induction]
      rfl
  | case4 c rest plain alone induction =>
      rw [List.filter_cons_of_pos plain, ← induction]
      rfl
  | case5 c rest separator induction => rw [List.filter_cons_of_neg separator, induction]

theorem find_eq_head_words (chars : List CodePoint) :
    chars.find? isWordChar = (words chars).flatten.head? := by
  rw [words_flatten, List.head?_filter]

theorem exists_first_char {chars word : List CodePoint} {others : List (List CodePoint)}
    (cut : words chars = word :: others) : ∃ c rest, word = c :: rest := by
  have listed : word ∈ words chars := by simp [cut]
  exact List.exists_cons_of_ne_nil (words_are_words chars word listed).1

theorem type_name_head (raw : Text) : (typeName raw).toList.head? =
    some (((raw.toList.find? isWordChar).map toUpper).getD (.char 'U')) := by
  rw [find_eq_head_words]
  unfold typeName
  cases cut : words raw.toList with
  | nil => rfl
  | cons word others =>
      obtain ⟨c, rest, rfl⟩ := exists_first_char cut
      simp [capitalize]

theorem field_name_head (raw : Text) : (fieldName raw).toList.head? =
    some (((raw.toList.find? isWordChar).map toLower).getD (.char 'e')) := by
  unfold fieldName
  dsimp only
  split
  · rename_i whole
    split
    · rename_i empty
      rw [List.isEmpty_iff.mp empty]
      rfl
    · cases shape : raw.toList with
      | nil => simp [shape] at *
      | cons c rest =>
          rw [shape, List.all_cons, Bool.and_eq_true] at whole
          simp [lowerFirst, whole.1]
  · rw [find_eq_head_words]
    cases cut : words raw.toList with
    | nil => rfl
    | cons word others =>
        obtain ⟨c, rest, rfl⟩ := exists_first_char cut
        simp

/-! ### Chosen names -/

theorem is_word_char_to_lower {c : CodePoint} (plain : isWordChar c = true) :
    isWordChar (toLower c) = true :=
  ascii_forall (fun c => isWordChar c = true → isWordChar (toLower c) = true) (by decide)
    (word_char_ascii plain) plain

theorem field_name_plain (raw : Text) : Plain (fieldName raw) := by
  constructor
  · have head := field_name_head raw
    intro empty
    rw [empty] at head
    cases head
  unfold fieldName
  dsimp only
  split
  · rename_i whole
    split
    · exact List.all_eq_true.mp (by decide)
    · rw [Text.to_list_of_list]
      cases shape : raw.toList with
      | nil => exact List.forall_mem_nil _
      | cons c rest =>
          rw [shape] at whole
          obtain ⟨first, others⟩ := List.forall_mem_cons.mp (List.all_eq_true.mp whole)
          exact List.forall_mem_cons.mpr ⟨is_word_char_to_lower first, others⟩
  · have each := words_are_words raw.toList
    cases cut : words raw.toList with
    | nil => exact List.all_eq_true.mp (by decide)
    | cons word others =>
        rw [cut] at each
        obtain ⟨first, rest⟩ := List.forall_mem_cons.mp each
        rw [Text.to_list_of_list, List.forall_mem_append]
        constructor
        · intro c member
          obtain ⟨d, held, rfl⟩ := List.mem_map.mp member
          exact is_word_char_to_lower (first.2 d held)
        · intro c member
          obtain ⟨other, held, inner⟩ := List.mem_flatMap.mp member
          exact (rest other held).capitalize c inner

theorem Plain.opens_with_digit {name : Text} (plain : Plain name) :
    opensWithDigit name = name.toList.head?.any isDigit := by
  obtain ⟨nonempty, all⟩ := plain
  unfold opensWithDigit
  cases shape : name.toList with
  | nil => exact absurd shape nonempty
  | cons c rest =>
      rw [shape] at all
      simp [all c List.mem_cons_self]

theorem Plain.head_append {name : Text} (plain : Plain name) (more : Text) :
    (name ++ more).toList.head? = name.toList.head? := by
  rw [Text.to_list_append, List.head?_append_of_ne_nil _ plain.1]

/-- Only the end of a name is changed by what stands behind it. -/
theorem Plain.opens_with_digit_append {name : Text} (plain : Plain name) {more : Text}
    (after : ∀ c ∈ more.toList, isWordChar c = true) :
    opensWithDigit (name ++ more) = opensWithDigit name := by
  rw [(plain.append after).opens_with_digit, plain.opens_with_digit, plain.head_append]

theorem is_digit_of_case {c : CodePoint} (plain : isWordChar c = true) :
    isDigit (toUpper c) = isDigit c ∧ isDigit (toLower c) = isDigit c :=
  ascii_forall (fun c => isWordChar c = true →
    isDigit (toUpper c) = isDigit c ∧ isDigit (toLower c) = isDigit c) (by decide)
    (word_char_ascii plain) plain

theorem type_name_opens_with_digit (raw : Text) :
    opensWithDigit (typeName raw) = opensWithDigit raw := by
  rw [(type_name_plain raw).opens_with_digit, type_name_head, opensWithDigit]
  cases found : raw.toList.find? isWordChar with
  | none => rfl
  | some c => exact (is_digit_of_case (List.find?_some found)).1

theorem field_name_opens_with_digit (raw : Text) :
    opensWithDigit (fieldName raw) = opensWithDigit raw := by
  rw [(field_name_plain raw).opens_with_digit, field_name_head, opensWithDigit]
  cases found : raw.toList.find? isWordChar with
  | none => rfl
  | some c => exact (is_digit_of_case (List.find?_some found)).2

theorem not_lower_to_upper {c : CodePoint} (plain : isWordChar c = true) :
    isLower (toUpper c) = false :=
  ascii_forall (fun c => isWordChar c = true → isLower (toUpper c) = false) (by decide)
    (word_char_ascii plain) plain

theorem type_name_capital (raw : Text) :
    (typeName raw).toList.head?.any isLower = false := by
  rw [type_name_head]
  cases found : raw.toList.find? isWordChar with
  | none => rfl
  | some c => exact not_lower_to_upper (List.find?_some found)

theorem numbered_opens_with_digit {name : Text} (plain : Plain name) (number : Nat) :
    opensWithDigit (numbered name number) = opensWithDigit name :=
  plain.opens_with_digit_append (digits_plain number)

theorem exists_digit_numbered (name : Text) (number : Nat) :
    ∃ c ∈ (numbered name number).toList, isDigit c = true := by
  have some : (Text.ofString (toString number)).toList ≠ [] := by simp
  obtain ⟨c, rest, digits⟩ := List.exists_cons_of_ne_nil some
  have listed : c ∈ (Text.ofString (toString number)).toList := by
    rw [digits]
    exact List.mem_cons_self
  refine ⟨c, ?_, is_digit_of_mem number c listed⟩
  rw [numbered, Text.to_list_append]
  exact List.mem_append_right _ listed

end DtoForge.Naming
