/-!
Texts as sequences of code points. A code point is a character or one of the surrogates, the codes
that UTF-16 takes two of for a character beyond the first plane. A surrogate alone is no character
and has no UTF-8 form, but an escape in a document can name it, so a text may hold it.
-/

namespace DtoForge

/-- The surrogates are counted from the first one; those from `0x400` on are the low ones, which
end a pair. -/
inductive CodePoint
  | char (c : Char)
  | surrogate (offset : Fin 0x800)
  deriving Repr, DecidableEq

namespace CodePoint

instance : Coe Char CodePoint := ⟨char⟩

def toNat : CodePoint → Nat
  | char c => c.toNat
  | surrogate offset => 0xd800 + offset

def ofNat (code : Nat) : CodePoint :=
  if _reserved : 0xd800 ≤ code ∧ code < 0xe000 then surrogate ⟨code - 0xd800, by omega⟩
  else char (Char.ofNat code)

/-- A property of characters, which no surrogate has. -/
def isChar (property : Char → Bool) : CodePoint → Bool
  | char c => property c
  | surrogate _ => false

def char? : CodePoint → Option Char
  | char c => some c
  | surrogate _ => none

/-- A change of characters, which leaves a surrogate as it is. -/
def mapChar (change : Char → Char) : CodePoint → CodePoint
  | char c => char (change c)
  | surrogate offset => surrogate offset

theorem is_char_iff {property : Char → Bool} {c : CodePoint} :
    c.isChar property = true ↔ ∃ d, c = char d ∧ property d = true := by
  cases c with
  | char d => simp [isChar]
  | surrogate offset => simp [isChar]

/-- No character has the code of a surrogate. -/
theorem not_reserved (c : Char) : ¬(0xd800 ≤ c.toNat ∧ c.toNat < 0xe000) := by
  have valid : c.toNat < 0xd800 ∨ (0xdfff < c.toNat ∧ c.toNat < 0x110000) := c.valid
  omega

theorem to_nat_injective : Function.Injective toNat := by
  intro left right same
  cases left with
  | char c =>
      cases right with
      | char d => exact congrArg char (Char.toNat_inj.mp same)
      | surrogate offset =>
          have outside := not_reserved c
          simp only [toNat] at same
          omega
  | surrogate offset =>
      cases right with
      | char d =>
          have outside := not_reserved d
          simp only [toNat] at same
          omega
      | surrogate other =>
          simp only [toNat] at same
          exact congrArg surrogate (Fin.ext (by omega))

theorem of_nat_to_nat (c : CodePoint) : ofNat c.toNat = c := by
  cases c with
  | char d => rw [ofNat, toNat, dif_neg (not_reserved d), Char.ofNat_toNat]
  | surrogate offset =>
      have reserved : 0xd800 ≤ 0xd800 + offset.val ∧ 0xd800 + offset.val < 0xe000 := by omega
      rw [ofNat, toNat, dif_pos reserved]
      exact congrArg surrogate (Fin.ext (by simp))

end CodePoint

structure Text where
  ofList ::
  toList : List CodePoint
  deriving Repr, DecidableEq

namespace Text

def ofString (string : String) : Text := ⟨string.toList.map .char⟩

instance : Coe String Text := ⟨ofString⟩

instance : Inhabited Text := ⟨""⟩

instance : Append Text := ⟨fun left right => ⟨left.toList ++ right.toList⟩⟩

def length (text : Text) : Nat := text.toList.length

def isEmpty (text : Text) : Bool := text.toList.isEmpty

def join : List Text → Text
  | [] => ""
  | text :: rest => text ++ join rest

def intercalate (separator : Text) : List Text → Text
  | [] => ""
  | [text] => text
  | text :: rest => text ++ separator ++ intercalate separator rest

def chars? (text : Text) : Option (List Char) := text.toList.mapM CodePoint.char?

def codes (text : Text) : List Nat := text.toList.map CodePoint.toNat

/-- Texts stand in the order of their codes. -/
instance : LT Text := ⟨fun left right => left.codes < right.codes⟩

instance (left right : Text) : Decidable (left < right) :=
  inferInstanceAs (Decidable (left.codes < right.codes))

section

variable {left right other text : Text}

theorem to_list_inj : left.toList = right.toList ↔ left = right :=
  ⟨fun same => congrArg ofList same, congrArg toList⟩

@[simp] theorem to_list_of_list (points : List CodePoint) : (ofList points).toList = points := rfl

@[simp] theorem to_list_append (left right : Text) :
    (left ++ right).toList = left.toList ++ right.toList := rfl

@[simp] theorem to_list_of_string (string : String) :
    (ofString string).toList = string.toList.map .char := rfl

@[simp] theorem of_string_inj {string other : String} :
    ofString string = ofString other ↔ string = other := by
  rw [← to_list_inj, to_list_of_string, to_list_of_string,
    List.map_inj_right fun _ _ => CodePoint.char.inj, String.toList_inj]

theorem append_assoc (left right other : Text) :
    left ++ right ++ other = left ++ (right ++ other) :=
  congrArg ofList (List.append_assoc _ _ _)

@[simp] theorem append_empty (text : Text) : text ++ "" = text :=
  congrArg ofList (List.append_nil _)

@[simp] theorem empty_append (text : Text) : "" ++ text = text := rfl

theorem append_right_inj (text : Text) : text ++ left = text ++ right ↔ left = right := by
  rw [← to_list_inj, to_list_append, to_list_append, List.append_cancel_left_eq, to_list_inj]

theorem append_eq_left_iff : left ++ right = left ↔ right = "" := by
  rw [← to_list_inj, to_list_append, List.append_right_eq_self, ← to_list_inj]
  rfl

theorem append_left_inj (text : Text) : left ++ text = right ++ text ↔ left = right := by
  rw [← to_list_inj, to_list_append, to_list_append, List.append_cancel_right_eq, to_list_inj]

theorem intercalate_cons (separator text : Text) {texts : List Text} (some : texts ≠ []) :
    intercalate separator (text :: texts) = text ++ separator ++ intercalate separator texts := by
  cases texts with
  | nil => exact absurd rfl some
  | cons next rest => rfl

theorem intercalate_concat (separator last : Text) {texts : List Text} (some : texts ≠ []) :
    intercalate separator (texts ++ [last]) = intercalate separator texts ++ separator ++ last := by
  induction texts with
  | nil => exact absurd rfl some
  | cons text rest induction =>
      cases rest with
      | nil => rfl
      | cons next others =>
          rw [List.cons_append, intercalate_cons _ _ (by simp), induction (List.cons_ne_nil _ _),
            intercalate_cons _ _ (List.cons_ne_nil _ _)]
          simp only [append_assoc]

theorem join_append (left right : List Text) : join (left ++ right) = join left ++ join right := by
  induction left with
  | nil => rfl
  | cons text rest induction => rw [List.cons_append, join, induction, join, append_assoc]

end

end Text

end DtoForge
