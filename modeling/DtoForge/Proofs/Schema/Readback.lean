import DtoForge.Proofs.Text.Units
import DtoForge.Schema.Canonical

/-!
The canonical encoding can be read back, but for texts with the same units. Escaped units are
decoded one by one, a text ends at its first bare quote, and no encoding starts like the end of a
list; hence two encodings that agree up to some rest keep the same of their values, and so are the
rests. Encodings are ASCII, so their bytes determine them.
-/

namespace DtoForge.Canonical

open Text

/-! ### Texts -/

theorem units_bound (c : CodePoint) : ∀ unit ∈ c.units, unit < 0x10000 := by
  cases c with
  | char c =>
      have range : c.toNat < 0x110000 := by
        have valid : c.toNat < 0xd800 ∨ 0xdfff < c.toNat ∧ c.toNat < 0x110000 := c.valid
        omega
      intro unit listed
      rw [CodePoint.units] at listed
      split at listed
      · rw [List.mem_singleton.mp listed]
        assumption
      · simp only [List.mem_cons, List.not_mem_nil, or_false] at listed
        omega
  | surrogate offset =>
      intro unit listed
      rw [List.mem_singleton.mp listed]
      omega

theorem text_units_bound (value : Text) : ∀ unit ∈ value.units, unit < 0x10000 := by
  intro unit listed
  obtain ⟨c, -, inner⟩ := List.mem_flatMap.mp listed
  exact units_bound c unit inner

def hexValue (c : Char) : Nat := if c.toNat < 58 then c.toNat - 48 else c.toNat - 87

theorem hex_value_digit : ∀ n < 16, hexValue (hexDigit n) = n := by decide

def readUnit : List Char → Option (Nat × List Char)
  | '\\' :: '"' :: rest => some ('"'.toNat, rest)
  | '\\' :: '\\' :: rest => some ('\\'.toNat, rest)
  | '\\' :: 'n' :: rest => some ('\n'.toNat, rest)
  | '\\' :: 'r' :: rest => some ('\r'.toNat, rest)
  | '\\' :: 't' :: rest => some ('\t'.toNat, rest)
  | '\\' :: 'f' :: rest => some ('\x0c'.toNat, rest)
  | '\\' :: 'b' :: rest => some ('\x08'.toNat, rest)
  | '\\' :: 'u' :: a :: b :: c :: d :: rest =>
    some (((hexValue a * 16 + hexValue b) * 16 + hexValue c) * 16 + hexValue d, rest)
  | c :: rest => some (c.toNat, rest)
  | [] => none

theorem read_unit_number (unit : Nat) (bound : unit < 0x10000) (rest : List Char) :
    readUnit (unitEscape unit ++ rest) = some (unit, rest) := by
  have digits : hexDigits 4 unit =
      [hexDigit (unit / 16 / 16 / 16 % 16), hexDigit (unit / 16 / 16 % 16),
        hexDigit (unit / 16 % 16), hexDigit (unit % 16)] := rfl
  have value (n : Nat) : hexValue (hexDigit (n % 16)) = n % 16 :=
    hex_value_digit _ (Nat.mod_lt n (by decide))
  simp only [unitEscape, digits, List.cons_append, List.nil_append, readUnit, value,
    Option.some.injEq, Prod.mk.injEq, and_true]
  omega

theorem read_unit_bare : ∀ unit < 0x7f, 0x20 ≤ unit → unit ≠ 0x22 → unit ≠ 0x5c →
    (Char.ofNat unit).toNat = unit ∧ Char.ofNat unit ≠ '\\' := by
  decide

theorem read_unit_escape (unit : Nat) (bound : unit < 0x10000) (rest : List Char) :
    readUnit (escapeUnit unit ++ rest) = some (unit, rest) := by
  unfold escapeUnit
  split
  · rename_i same; subst same; rfl
  rename_i notQuote
  split
  · rename_i same; subst same; rfl
  rename_i notBackslash
  iterate 5
    split
    · rename_i same; subst same; rfl
  split
  · rename_i printable
    obtain ⟨code, bare⟩ :=
      read_unit_bare unit printable.2 printable.1 notQuote notBackslash
    rw [List.singleton_append]
    unfold readUnit
    split <;> simp_all
  · exact read_unit_number unit bound rest

theorem escape_head (unit : Nat) : ∃ head tail, escapeUnit unit = head :: tail ∧ head ≠ '"' := by
  unfold escapeUnit
  split
  · exact ⟨_, _, rfl, by decide⟩
  rename_i notQuote
  iterate 6
    split
    · exact ⟨_, _, rfl, by decide⟩
  split
  · rename_i printable
    refine ⟨_, _, rfl, fun same => notQuote ?_⟩
    have codes : ∀ unit < 0x7f, Char.ofNat unit = '"' → unit = '"'.toNat := by decide
    exact codes unit printable.2 same
  · exact ⟨_, _, rfl, by decide⟩

theorem escaped_units_cancel (left right : List Nat) (leftBound : ∀ unit ∈ left, unit < 0x10000)
    (rightBound : ∀ unit ∈ right, unit < 0x10000) (rest other : List Char)
    (same : left.flatMap escapeUnit ++ '"' :: rest = right.flatMap escapeUnit ++ '"' :: other) :
    left = right ∧ rest = other := by
  induction left generalizing right with
  | nil =>
      cases right with
      | nil => simpa using same
      | cons d right =>
          obtain ⟨head, tail, shape, bare⟩ := escape_head d
          simp only [List.flatMap_nil, List.nil_append, List.flatMap_cons, shape,
            List.cons_append, List.cons.injEq] at same
          exact absurd same.1.symm bare
  | cons c left induction =>
      cases right with
      | nil =>
          obtain ⟨head, tail, shape, bare⟩ := escape_head c
          simp only [List.flatMap_nil, List.nil_append, List.flatMap_cons, shape,
            List.cons_append, List.cons.injEq] at same
          exact absurd same.1 bare
      | cons d right =>
          obtain ⟨cBound, leftRest⟩ := List.forall_mem_cons.mp leftBound
          obtain ⟨dBound, rightRest⟩ := List.forall_mem_cons.mp rightBound
          simp only [List.flatMap_cons, List.append_assoc] at same
          have read := read_unit_escape c cBound (left.flatMap escapeUnit ++ '"' :: rest)
          rw [same, read_unit_escape d dBound] at read
          simp only [Option.some.injEq, Prod.mk.injEq] at read
          obtain ⟨units, ends⟩ := induction right leftRest rightRest read.2.symm
          exact ⟨by rw [read.1, units], ends⟩

theorem render_text_cancel (left right : Text) (rest other : List Char)
    (same : renderText left ++ rest = renderText right ++ other) :
    left.units = right.units ∧ rest = other := by
  simp only [renderText, List.cons_append, List.append_assoc, List.nil_append, List.cons.injEq,
    true_and] at same
  exact escaped_units_cancel _ _ (text_units_bound left) (text_units_bound right) _ _ same

/-- What an encoding keeps of a value: of its texts the units. -/
inductive Kept
  | absent
  | text (units : List Nat)
  | list (items : List Kept)

mutual

def kept : Canonical → Kept
  | .absent => .absent
  | .text value => .text value.units
  | .list items => .list (keptItems items)

def keptItems : List Canonical → List Kept
  | [] => []
  | item :: rest => kept item :: keptItems rest

end

theorem kept_items_eq_map (items : List Canonical) : keptItems items = items.map kept := by
  induction items with
  | nil => rfl
  | cons item rest induction => rw [keptItems, induction, List.map_cons]

/-! ### Whole encodings -/

def renderLater : List Canonical → List Char
  | [] => []
  | item :: rest => ',' :: renderItems (item :: rest)

theorem render_items_cons (item : Canonical) (rest : List Canonical) :
    renderItems (item :: rest) = render item ++ renderLater rest := by
  cases rest with
  | nil => simp [renderItems, renderLater]
  | cons next rest => rfl

theorem render_head (value : Canonical) :
    ∃ head tail, render value = head :: tail ∧ head ≠ ']' := by
  cases value with
  | absent => exact ⟨_, _, rfl, by decide⟩
  | text value => exact ⟨_, _, rfl, by decide⟩
  | list items => exact ⟨_, _, rfl, by decide⟩

mutual

theorem render_cancel (left right : Canonical) (rest other : List Char)
    (same : render left ++ rest = render right ++ other) :
    left.kept = right.kept ∧ rest = other := by
  cases left with
  | absent =>
      cases right with
      | absent => simpa [render, kept] using same
      | text value => simp [render, renderText] at same
      | list items => simp [render] at same
  | text value =>
      cases right with
      | absent => simp [render, renderText] at same
      | text value' =>
          obtain ⟨texts, ends⟩ := render_text_cancel value value' rest other same
          exact ⟨congrArg Kept.text texts, ends⟩
      | list items => simp [render, renderText] at same
  | list items =>
      cases right with
      | absent => simp [render] at same
      | text value => simp [render, renderText] at same
      | list items' =>
          simp only [render, List.cons_append, List.append_assoc, List.nil_append,
            List.cons.injEq, true_and] at same
          obtain ⟨lists, ends⟩ := render_items_cancel items items' rest other same
          exact ⟨congrArg Kept.list lists, ends⟩

theorem render_items_cancel (left right : List Canonical) (rest other : List Char)
    (same : renderItems left ++ ']' :: rest = renderItems right ++ ']' :: other) :
    keptItems left = keptItems right ∧ rest = other := by
  match left, right with
  | [], [] => simpa [renderItems, keptItems] using same
  | [], value :: values =>
      obtain ⟨head, tail, shape, inner⟩ := render_head value
      rw [render_items_cons, shape] at same
      simp only [renderItems, List.nil_append, List.cons_append, List.cons.injEq] at same
      exact absurd same.1.symm inner
  | item :: items, [] =>
      obtain ⟨head, tail, shape, inner⟩ := render_head item
      rw [render_items_cons, shape] at same
      simp only [renderItems, List.nil_append, List.cons_append, List.cons.injEq] at same
      exact absurd same.1 inner
  | item :: items, value :: values =>
      rw [render_items_cons, render_items_cons, List.append_assoc, List.append_assoc] at same
      obtain ⟨heads, later⟩ := render_cancel item value _ _ same
      match items, values with
      | [], [] => exact ⟨congrArg (· :: []) heads, by simpa [renderLater] using later⟩
      | [], next :: values => simp [renderLater] at later
      | next :: items, [] => simp [renderLater] at later
      | next :: items, following :: values =>
          simp only [renderLater, List.cons_append, List.cons.injEq, true_and] at later
          obtain ⟨tails, ends⟩ :=
            render_items_cancel (next :: items) (following :: values) rest other later
          exact ⟨congrArg₂ List.cons heads tails, ends⟩

end

mutual

/-- Nothing else of a value than what is kept of it shows in its encoding. -/
theorem render_congr (left right : Canonical) (same : left.kept = right.kept) :
    render left = render right := by
  match left, right with
  | .absent, .absent => rfl
  | .text value, .text other =>
      rw [render, render, renderText, renderText, Kept.text.inj same]
  | .list items, .list others =>
      rw [render, render, render_items_congr items others (Kept.list.inj same)]

theorem render_items_congr (left right : List Canonical) (same : keptItems left = keptItems right) :
    renderItems left = renderItems right := by
  match left, right with
  | [], [] => rfl
  | item :: items, other :: others =>
      obtain ⟨heads, tails⟩ := List.cons.inj same
      rw [render_items_cons, render_items_cons, render_congr item other heads]
      match items, others with
      | [], [] => rfl
      | next :: items, following :: others =>
          rw [renderLater, renderLater,
            render_items_congr (next :: items) (following :: others) tails]

end

theorem render_eq_iff (left right : Canonical) : render left = render right ↔
    left.kept = right.kept :=
  ⟨fun same => (render_cancel left right [] [] (by rw [same])).1, render_congr left right⟩

/-! ### Encodings as bytes -/

def bytes (value : Canonical) : List UInt8 := (render value).map fun c => UInt8.ofNat c.toNat

def IsAscii (c : Char) : Prop := c.toNat < 128

instance : DecidablePred IsAscii := fun c => inferInstanceAs (Decidable (c.toNat < 128))

theorem hex_digit_ascii : ∀ n < 16, (hexDigit n).toNat < 128 := by decide

theorem hex_digits_ascii (width n : Nat) : ∀ c ∈ hexDigits width n, IsAscii c := by
  induction width generalizing n with
  | zero => simp [hexDigits]
  | succ width induction =>
      intro c member
      rcases List.mem_append.mp member with earlier | last
      · exact induction (n / 16) c earlier
      · rw [List.mem_singleton.mp last]
        exact hex_digit_ascii _ (Nat.mod_lt n (by decide))

theorem unit_escape_ascii (unit : Nat) : ∀ c ∈ unitEscape unit, IsAscii c := by
  intro c member
  simp only [unitEscape, List.mem_cons] at member
  rcases member with rfl | rfl | digit
  · decide
  · decide
  · exact hex_digits_ascii 4 unit c digit

theorem escape_ascii (unit : Nat) : ∀ c ∈ escapeUnit unit, IsAscii c := by
  unfold escapeUnit
  iterate 7
    split
    · simp [IsAscii]
  split
  · rename_i printable
    intro c member
    rw [List.mem_singleton.mp member]
    have codes : ∀ unit < 0x7f, IsAscii (Char.ofNat unit) := by decide
    exact codes unit printable.2
  · exact unit_escape_ascii unit

theorem render_text_ascii (value : Text) : ∀ c ∈ renderText value, IsAscii c := by
  intro c member
  simp only [renderText, List.mem_cons, List.mem_append, List.mem_flatMap, List.not_mem_nil,
    or_false] at member
  rcases member with rfl | ⟨unit, -, escaped⟩ | rfl
  · decide
  · exact escape_ascii unit c escaped
  · decide

mutual

theorem render_ascii (value : Canonical) : ∀ c ∈ render value, IsAscii c := by
  cases value with
  | absent => simp [render, IsAscii]
  | text value => exact render_text_ascii value
  | list items =>
      intro c member
      simp only [render, List.mem_cons, List.mem_append, List.not_mem_nil, or_false] at member
      rcases member with rfl | inner | rfl
      · decide
      · exact render_items_ascii items c inner
      · decide

theorem render_items_ascii (items : List Canonical) : ∀ c ∈ renderItems items, IsAscii c := by
  match items with
  | [] => simp [renderItems]
  | [item] => exact render_ascii item
  | item :: next :: rest =>
      intro c member
      simp only [renderItems, List.mem_append, List.mem_cons] at member
      rcases member with first | rfl | later
      · exact render_ascii item c first
      · decide
      · exact render_items_ascii (next :: rest) c later

end

theorem ascii_bytes_injective (left right : List Char) (leftAscii : ∀ c ∈ left, IsAscii c)
    (rightAscii : ∀ c ∈ right, IsAscii c)
    (same : left.map (fun c => UInt8.ofNat c.toNat) = right.map fun c => UInt8.ofNat c.toNat) :
    left = right := by
  induction left generalizing right with
  | nil => simpa using same.symm
  | cons c left induction =>
      cases right with
      | nil => simp at same
      | cons d right =>
          simp only [List.map_cons, List.cons.injEq] at same
          have cBound : c.toNat < 128 := leftAscii c List.mem_cons_self
          have dBound : d.toNat < 128 := rightAscii d List.mem_cons_self
          have values : c.toNat = d.toNat := by
            have read := congrArg UInt8.toNat same.1
            simp only [UInt8.toNat_ofNat'] at read
            omega
          have heads : c = d := by
            rw [← Char.ofNat_toNat c, values, Char.ofNat_toNat]
          have tails := induction right
            (fun e member => leftAscii e (List.mem_cons_of_mem _ member))
            (fun e member => rightAscii e (List.mem_cons_of_mem _ member)) same.2
          rw [heads, tails]

theorem bytes_eq_iff (left right : Canonical) : left.bytes = right.bytes ↔
    left.kept = right.kept := by
  rw [← render_eq_iff]
  constructor
  · exact ascii_bytes_injective _ _ (render_ascii left) (render_ascii right)
  · exact congrArg (List.map fun c : Char => UInt8.ofNat c.toNat)

end DtoForge.Canonical
