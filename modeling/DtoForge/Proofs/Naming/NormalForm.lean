import DtoForge.Proofs.Naming.Opening

/-!
Type names and field names are normal forms. A name that is made can be made again without a change,
separators count only by where they stand and not by what or how many they are, and the two kinds of
names of one raw name differ in letter case alone. Names are ASCII, so letter case is that of ASCII.
-/

namespace DtoForge.Naming

def bridged : List CodePoint → List CodePoint
  | [] => []
  | c :: rest =>
    if isWordChar c then c :: bridged rest
    else .char '_' :: bridged (rest.dropWhile (!isWordChar ·))
termination_by chars => chars.length
decreasing_by
  · exact Nat.lt_succ_self _
  · exact Nat.lt_succ_of_le (List.dropWhile_sublist _).length_le

def bridge (raw : Text) : Text := Text.ofList (bridged raw.toList)

example : bridge "--größe (cm)" = "_gr_e_cm_" := by cbv

def folded (name : Text) : List CodePoint := name.toList.map toLower

/-! ### Words and separators -/

theorem words_cons {c : CodePoint} (plain : isWordChar c = true) (rest : List CodePoint) :
    words (c :: rest) =
      if rest.head?.any isWordChar then (c :: (words rest).headD []) :: (words rest).tail
      else [c] :: words rest := by
  rw [words, if_pos plain]
  cases rest with
  | nil => rfl
  | cons next rest =>
      cases shape : words (next :: rest) with
      | nil =>
          have separator : isWordChar next = false := by
            by_contra letter
            have flat := words_flatten (next :: rest)
            simp [shape, letter] at flat
          simp [separator]
      | cons word others => simp

theorem words_separator {c : CodePoint} (separator : isWordChar c = false) (rest : List CodePoint) :
    words (c :: rest) = words rest := by
  rw [words, if_neg (by simp [separator])]

theorem words_of_word {word : List CodePoint} (plain : IsWord word) : words word = [word] := by
  obtain ⟨nonempty, all⟩ := plain
  induction word with
  | nil => exact absurd rfl nonempty
  | cons c rest induction =>
      obtain ⟨first, others⟩ := List.forall_mem_cons.mp all
      rw [words_cons first]
      cases rest with
      | nil => rfl
      | cons next rest =>
          have inner := induction (List.cons_ne_nil _ _) others
          simp [inner, others next List.mem_cons_self]

theorem words_drop_separators (chars : List CodePoint) :
    words (chars.dropWhile (!isWordChar ·)) = words chars := by
  induction chars with
  | nil => rfl
  | cons c rest induction =>
      cases letter : isWordChar c with
      | true => rw [List.dropWhile_cons_of_neg (by simp [letter])]
      | false =>
          rw [List.dropWhile_cons_of_pos (by simp [letter]), induction,
            words_separator letter]

/-- Replacing separators keeps what opens a text: a letter or digit, or a separator. -/
theorem head_bridged (chars : List CodePoint) :
    (bridged chars).head?.any isWordChar = chars.head?.any isWordChar := by
  have underscore : isWordChar (.char '_') = false := by decide
  fun_cases bridged chars with
  | case1 => rfl
  | case2 c rest plain => rfl
  | case3 c rest separator => simp [separator, underscore]

theorem words_bridged (chars : List CodePoint) : words (bridged chars) = words chars := by
  fun_induction bridged chars with
  | case1 => rfl
  | case2 c rest plain induction =>
      rw [words_cons plain, words_cons plain, head_bridged, induction]
  | case3 c rest separator induction =>
      rw [words_separator (by decide), induction, words_drop_separators,
        words_separator (by simpa using separator)]

theorem bridged_of_plain {chars : List CodePoint} (plain : chars.all isWordChar = true) :
    bridged chars = chars := by
  induction chars with
  | nil => rw [bridged]
  | cons c rest induction =>
      rw [List.all_cons, Bool.and_eq_true] at plain
      rw [bridged, if_pos plain.1, induction plain.2]

theorem all_bridged (chars : List CodePoint) :
    (bridged chars).all isWordChar = chars.all isWordChar := by
  have underscore : isWordChar (.char '_') = false := by decide
  fun_induction bridged chars with
  | case1 => rfl
  | case2 c rest plain induction => rw [List.all_cons, List.all_cons, induction]
  | case3 c rest separator induction => simp [separator, underscore]

theorem type_name_bridge (raw : Text) : typeName (bridge raw) = typeName raw := by
  rw [typeName, typeName, bridge, Text.to_list_of_list, words_bridged]

theorem field_name_bridge (raw : Text) : fieldName (bridge raw) = fieldName raw := by
  cases plain : raw.toList.all isWordChar with
  | true => rw [bridge, bridged_of_plain plain]
  | false =>
      unfold fieldName bridge
      dsimp only
      rw [Text.to_list_of_list, all_bridged, words_bridged, plain]
      rfl

/-! ### Names of names -/

theorem Plain.opening {name : Text} (plain : Plain name) :
    ∃ c rest, name.toList = c :: rest ∧ isWordChar c = true := by
  obtain ⟨c, rest, shape⟩ := List.exists_cons_of_ne_nil plain.1
  exact ⟨c, rest, shape, plain.2 c (shape ▸ List.mem_cons_self)⟩

theorem type_name_of_plain {name : Text} (plain : Plain name) :
    typeName name = Text.ofList (capitalize name.toList) := by
  obtain ⟨c, rest, shape, -⟩ := plain.opening
  rw [typeName, words_of_word plain, shape, List.flatMap_singleton]
  rfl

theorem field_name_of_plain {name : Text} (plain : Plain name) :
    fieldName name = Text.ofList (lowerFirst name.toList) := by
  have whole : name.toList.all isWordChar = true := List.all_eq_true.mpr plain.2
  have some : name.toList.isEmpty = false := by simpa using plain.1
  rw [fieldName, if_pos whole, some]
  rfl

theorem to_upper_eq_self {c : CodePoint} (plain : isWordChar c = true)
    (capital : isLower c = false) :
    toUpper c = c :=
  ascii_forall (fun c => isWordChar c = true → isLower c = false → toUpper c = c) (by decide)
    (word_char_ascii plain) plain capital

theorem to_lower_eq_self {c : CodePoint} (plain : isWordChar c = true) (small : isUpper c = false) :
    toLower c = c :=
  ascii_forall (fun c => isWordChar c = true → isUpper c = false → toLower c = c) (by decide)
    (word_char_ascii plain) plain small

theorem not_upper_to_lower {c : CodePoint} (plain : isWordChar c = true) :
    isUpper (toLower c) = false :=
  ascii_forall (fun c => isWordChar c = true → isUpper (toLower c) = false) (by decide)
    (word_char_ascii plain) plain

theorem field_name_small (raw : Text) :
    (fieldName raw).toList.head?.any isUpper = false := by
  rw [field_name_head]
  cases found : raw.toList.find? isWordChar with
  | none => rfl
  | some c => exact not_upper_to_lower (List.find?_some found)

theorem type_name_stable (raw : Text) : typeName (typeName raw) = typeName raw := by
  have plain := type_name_plain raw
  have capital := type_name_capital raw
  obtain ⟨c, rest, shape, first⟩ := plain.opening
  rw [shape] at capital
  rw [type_name_of_plain plain, ← Text.to_list_inj, Text.to_list_of_list, shape, capitalize,
    to_upper_eq_self first capital]

theorem field_name_stable (raw : Text) : fieldName (fieldName raw) = fieldName raw := by
  have plain := field_name_plain raw
  have small := field_name_small raw
  obtain ⟨c, rest, shape, first⟩ := plain.opening
  rw [shape] at small
  rw [field_name_of_plain plain, ← Text.to_list_inj, Text.to_list_of_list, shape, lowerFirst,
    to_lower_eq_self first small]

/-! ### Letter case -/

theorem to_lower_to_upper {c : CodePoint} (plain : isWordChar c = true) :
    toLower (toUpper c) = toLower c :=
  ascii_forall (fun c => isWordChar c = true → toLower (toUpper c) = toLower c) (by decide)
    (word_char_ascii plain) plain

theorem to_lower_to_lower {c : CodePoint} (plain : isWordChar c = true) :
    toLower (toLower c) = toLower c :=
  ascii_forall (fun c => isWordChar c = true → toLower (toLower c) = toLower c) (by decide)
    (word_char_ascii plain) plain

theorem lower_capitalize {word : List CodePoint} (plain : IsWord word) :
    (capitalize word).map toLower = word.map toLower := by
  cases word with
  | nil => rfl
  | cons c rest =>
      rw [capitalize, List.map_cons, List.map_cons,
        to_lower_to_upper (plain.2 c List.mem_cons_self)]

theorem lower_capitalized {pieces : List (List CodePoint)} (plain : ∀ word ∈ pieces, IsWord word) :
    (pieces.flatMap capitalize).map toLower = pieces.flatten.map toLower := by
  induction pieces with
  | nil => rfl
  | cons word rest induction =>
      obtain ⟨first, others⟩ := List.forall_mem_cons.mp plain
      rw [List.flatMap_cons, List.flatten_cons, List.map_append, List.map_append,
        lower_capitalize first, induction others]

def letters (raw : Text) : List CodePoint := raw.toList.filter isWordChar

theorem letters_of_plain {name : Text} (plain : Plain name) : letters name = name.toList :=
  List.filter_eq_self.mpr plain.2

theorem folded_type_name {raw : Text} (some : letters raw ≠ []) :
    folded (typeName raw) = (letters raw).map toLower := by
  have kept := lower_capitalized (words_are_words raw.toList)
  rw [words_flatten] at kept
  unfold folded typeName
  split
  · rename_i bare
    rw [bare] at kept
    exact absurd (List.map_eq_nil_iff.mp kept.symm) some
  · rw [Text.to_list_of_list, kept]
    rfl

theorem folded_field_name {raw : Text} (some : letters raw ≠ []) :
    folded (fieldName raw) = (letters raw).map toLower := by
  unfold folded fieldName
  dsimp only
  split
  · rename_i whole
    have plain : ∀ c ∈ raw.toList, isWordChar c = true := List.all_eq_true.mp whole
    rw [letters, List.filter_eq_self.mpr plain] at some ⊢
    obtain ⟨c, rest, shape⟩ := List.exists_cons_of_ne_nil some
    rw [shape] at plain ⊢
    rw [List.isEmpty_cons, if_neg Bool.false_ne_true, Text.to_list_of_list, lowerFirst,
      List.map_cons,
      List.map_cons, to_lower_to_lower (plain c List.mem_cons_self)]
  · have flat := words_flatten raw.toList
    have each := words_are_words raw.toList
    cases cut : words raw.toList with
    | nil =>
        rw [cut] at flat
        exact absurd flat.symm some
    | cons word others =>
        rw [cut] at flat each
        obtain ⟨first, rest⟩ := List.forall_mem_cons.mp each
        have lowered : (word.map toLower).map toLower = word.map toLower := by
          rw [List.map_map]
          exact List.map_congr_left fun c held => to_lower_to_lower (first.2 c held)
        rw [Text.to_list_of_list, List.map_append, lowered, lower_capitalized rest,
          ← List.map_append,
          ← List.flatten_cons, flat]
        rfl

theorem folded_type_of_field {raw : Text} (some : letters raw ≠ []) :
    folded (typeName (fieldName raw)) = folded (typeName raw) := by
  have plain := field_name_plain raw
  have again : letters (fieldName raw) ≠ [] := by
    rw [letters_of_plain plain]
    exact plain.1
  calc
    folded (typeName (fieldName raw)) = (letters (fieldName raw)).map toLower :=
      folded_type_name again
    _ = folded (fieldName raw) := by rw [letters_of_plain plain, folded]
    _ = (letters raw).map toLower := folded_field_name some
    _ = folded (typeName raw) := (folded_type_name some).symm

/-! ### Normal forms -/

/-- What the names of a raw name have of normal forms. -/
structure NamesNormal (raw : Text) : Prop where
  typePlain : Plain (typeName raw)
  fieldPlain : Plain (fieldName raw)
  typeCapital : (typeName raw).toList.head?.any isLower = false
  fieldSmall : (fieldName raw).toList.head?.any isUpper = false
  typeStable : typeName (typeName raw) = typeName raw
  fieldStable : fieldName (fieldName raw) = fieldName raw
  typeBridged : typeName (bridge raw) = typeName raw
  fieldBridged : fieldName (bridge raw) = fieldName raw
  caseOnly : (∃ c ∈ raw.toList, isWordChar c = true) →
    folded (typeName (fieldName raw)) = folded (typeName raw)

theorem names_normal (raw : Text) : NamesNormal raw where
  typePlain := type_name_plain raw
  fieldPlain := field_name_plain raw
  typeCapital := type_name_capital raw
  fieldSmall := field_name_small raw
  typeStable := type_name_stable raw
  fieldStable := field_name_stable raw
  typeBridged := type_name_bridge raw
  fieldBridged := field_name_bridge raw
  caseOnly := by
    rintro ⟨c, held, plain⟩
    have some : letters raw ≠ [] := List.ne_nil_of_mem (List.mem_filter.mpr ⟨held, plain⟩)
    exact folded_type_of_field some

/-- Separators in front, runs of them, letters outside of ASCII, and words of several cases. -/
theorem http_size_normal :
    NamesNormal "__HTTP größe-(2b)" ∧
      (∃ c ∈ Text.toList "__HTTP größe-(2b)", isWordChar c = true) ∧
        typeName "__HTTP größe-(2b)" = "HTTPGrE2b" ∧ fieldName "__HTTP größe-(2b)" = "httpGrE2b" :=
  ⟨names_normal _, ⟨.char 'H', by decide, by decide⟩, by decide +kernel, by decide +kernel⟩

end DtoForge.Naming
