import DtoForge.Document.Json
import DtoForge.Proofs.Steps
import DtoForge.Proofs.Text.Units
import DtoForge.Table
import Mathlib.Data.List.Basic

/-!
What the JSON reader gives. Values are null, truth values, numbers, texts, lists, and mappings whose
keys are texts of which none comes twice, because a repeated key takes the place of the first one.
No key holds the two surrogates of a character apart, because the reader joins them. What texts are
accepted is not treated here.
-/

namespace DtoForge

open Document

def Document.Value.object (members : Table Value) : Value :=
  .map (members.map fun member => (.text member.1, member.2))

/-- Data as JSON has it: no key of an object comes twice or holds a character in two parts. -/
inductive Document.Value.IsJson : Value → Prop
  | null : IsJson .null
  | bool (value : Bool) : IsJson (.bool value)
  | int (value : Int) : IsJson (.int value)
  | float (value : Float) : IsJson (.float value)
  | nan : IsJson (.scalar .nan)
  | text (value : Text) : IsJson (.text value)
  | list {items : List Value} (each : ∀ item ∈ items, IsJson item) : IsJson (.list items)
  | object {members : Table Value} (distinct : members.keys.Nodup)
      (whole : ∀ name ∈ members.keys, name.PairFree)
      (each : ∀ member ∈ members, IsJson member.2) : IsJson (.object members)

theorem Document.Value.IsJson.of_object {members : Table Value}
    (json : (Value.object members).IsJson) :
    members.keys.Nodup ∧ (∀ name ∈ members.keys, name.PairFree) ∧
      ∀ member ∈ members, member.2.IsJson := by
  generalize shape : Value.object members = value at json
  cases json with
  | null | bool | int | float | nan | text | list => cases shape
  | @object others distinct whole each =>
      have injective : Function.Injective fun member : Text × Value =>
          (Scalar.text member.1, member.2) := by
        intro left right same
        simp only [Prod.mk.injEq, Scalar.text.injEq] at same
        exact Prod.ext same.1 same.2
      rw [List.map_injective_iff.mpr injective (Value.map.inj shape)]
      exact ⟨distinct, whole, each⟩

namespace Document.Json

/-! ### Members -/

def textEntries (members : Table Value) : Entries :=
  members.map fun member => (.text member.1, member.2)

theorem put_text (members : Table Value) (name : Text) (value : Value) :
    Entries.put (textEntries members) (.text name) value =
      textEntries (members.put name value) := by
  induction members with
  | nil => rfl
  | cons member rest induction =>
      obtain ⟨other, old⟩ := member
      have alike : (Scalar.text other).same (.text name) = (other == name) := rfl
      have shown : textEntries ((other, old) :: rest) =
          (.text other, old) :: textEntries rest := rfl
      rw [shown, Entries.put, alike, Table.put]
      by_cases same : other = name
      · rw [if_pos (beq_iff_eq.mpr same), if_pos same]
        rfl
      · rw [if_neg (by simpa using same), if_neg same, induction]
        rfl

theorem of_list_text (members : Table Value) :
    Entries.ofList (textEntries members) = textEntries (Table.ofList members) := by
  have step (members start : Table Value) :
      (textEntries members).foldl (fun entries pair => entries.put pair.1 pair.2)
          (textEntries start) =
        textEntries (members.foldl (fun table pair => table.put pair.1 pair.2) start) := by
    induction members generalizing start with
    | nil => rfl
    | cons member rest induction =>
        have shown : textEntries (member :: rest) =
            (.text member.1, member.2) :: textEntries rest := rfl
        rw [shown, List.foldl_cons, List.foldl_cons, put_text]
        exact induction (start.put member.1 member.2)
  exact step members []

def MembersRead (members : Table Value) : Prop :=
  ∀ member ∈ members, member.1.PairFree ∧ member.2.IsJson

theorem is_json_of_members {members : Table Value} (each : MembersRead members) :
    (Value.map (Entries.ofList (textEntries members))).IsJson := by
  rw [of_list_text]
  refine .object (Table.of_list_distinct members) ?_ ?_
  · intro name listed
    obtain ⟨member, held, rfl⟩ := List.mem_map.mp listed
    exact (each member (Table.mem_of_list held)).1
  · exact fun member held => (each member (Table.mem_of_list held)).2

/-! ### Strings -/

theorem pair_free_snoc {read : List CodePoint} {point : CodePoint} (free : PairFree read.reverse)
    (apart : ∀ last ∈ read.head?, ¬(IsHigh last.toNat ∧ IsLow point.toNat)) :
    PairFree (point :: read).reverse := by
  rw [List.reverse_cons]
  refine List.isChain_append.mpr ⟨free, List.isChain_singleton point, ?_⟩
  intro last held next first
  rw [List.getLast?_reverse] at held
  cases first
  exact apart last held

/-- A high surrogate was read last only if no low one is escaped next. -/
def Settled (read : List CodePoint) (chars : List Char) : Prop :=
  ∀ last ∈ read.head?, IsHigh last.toNat → lowSurrogate? chars = none

theorem char_not_surrogate (c : Char) :
    ¬ IsHigh (CodePoint.char c).toNat ∧ ¬ IsLow (CodePoint.char c).toNat := by
  have outside := CodePoint.not_reserved c
  have code : (CodePoint.char c).toNat = c.toNat := rfl
  rw [code, IsHigh, IsLow]
  omega

theorem pair_free_char {read : List CodePoint} (free : PairFree read.reverse) (c : Char)
    (chars : List Char) :
    PairFree (.char c :: read).reverse ∧ Settled (.char c :: read) chars := by
  obtain ⟨notHigh, notLow⟩ := char_not_surrogate c
  refine ⟨pair_free_snoc free fun _ _ pair => notLow pair.2, ?_⟩
  intro last held high
  cases held
  exact absurd high notHigh

theorem surrogate_code {code : Nat} (reserved : 0xd800 ≤ code ∧ code < 0xe000) :
    (CodePoint.ofNat code).toNat = code := by
  rw [CodePoint.ofNat, dif_pos reserved]
  exact Nat.add_sub_cancel' reserved.1

/-- An escape keeps the surrogates of a character together: a low one after a high one has been
taken with it, and a high one takes the low one after it. -/
theorem pair_free_escape {read : List CodePoint} {digits after : List Char} {code : Nat}
    (free : PairFree read.reverse) (settled : Settled read ('\\' :: 'u' :: digits))
    (four : hexFour? digits = some (code, after)) :
    PairFree ((unicodePoint code after).1 :: read).reverse ∧
      Settled ((unicodePoint code after).1 :: read) (unicodePoint code after).2 := by
  unfold unicodePoint
  by_cases high : 0xd800 ≤ code ∧ code < 0xdc00
  · rw [if_pos (by simpa using high)]
    split
    · exact pair_free_char free _ _
    · rename_i alone
      have same := surrogate_code ⟨high.1, Nat.lt_trans high.2 (by decide)⟩
      refine ⟨pair_free_snoc free ?_, fun _ _ _ => alone⟩
      rintro last - ⟨-, low⟩
      rw [same] at low
      exact absurd high.2 (Nat.not_lt.mpr low.1)
  · rw [if_neg (by simpa using high)]
    by_cases low : 0xdc00 ≤ code ∧ code < 0xe000
    · have same := surrogate_code ⟨Nat.le_trans (by decide) low.1, low.2⟩
      refine ⟨pair_free_snoc free ?_, ?_⟩
      · rintro last held ⟨before, -⟩
        have none := settled last held before
        rw [lowSurrogate?, four, Option.filter_some, if_pos (by simpa using low)] at none
        cases none
      · rintro last held before
        cases held
        rw [same] at before
        exact absurd before high
    · rw [CodePoint.ofNat, dif_neg (by omega)]
      exact pair_free_char free _ _

theorem string_from_pair_free (start limit : Nat) (read : List CodePoint) (chars : List Char)
    (free : PairFree read.reverse) (settled : Settled read chars) {text : Text} {rest : List Char}
    (given : stringFrom start limit read chars = .ok (text, rest)) : text.PairFree := by
  fun_induction stringFrom start limit read chars with
  | case1 | case2 | case4 | case6 | case8 | case9 => cases given
  | case3 =>
      rw [← (Prod.mk.inj (Except.ok.inj given)).1]
      exact free
  | case5 limit read digits code after four point rest joins _ induction =>
      have joined := pair_free_escape free settled four
      rw [joins] at joined
      exact induction joined.1 joined.2 given
  | case7 limit read _ _ _ char _ _ induction | case10 limit read char _ _ _ _ induction =>
      obtain ⟨longer, apart⟩ := pair_free_char free char _
      exact induction longer apart given

theorem string_pair_free {chars rest : List Char} {text : Text}
    (given : string chars = .ok (text, rest)) : text.PairFree :=
  string_from_pair_free _ _ [] chars .nil (fun _ none => nomatch none) given

/-! ### Reading -/

theorem word_is_json {chars rest : List Char} {scalar : Scalar}
    (read : word? chars = some (scalar, rest)) : (Value.scalar scalar).IsJson := by
  obtain ⟨⟨word, value⟩, listed, dropped⟩ := List.exists_of_findSome?_eq_some read
  obtain ⟨_, -, same⟩ := Option.map_eq_some_iff.mp dropped
  cases same
  simp only [words, List.mem_cons, Prod.mk.injEq, List.not_mem_nil, or_false] at listed
  rcases listed with ⟨-, rfl⟩ | ⟨-, rfl⟩ | ⟨-, rfl⟩ | ⟨-, rfl⟩ | ⟨-, rfl⟩ | ⟨-, rfl⟩
  · exact .null
  · exact .bool true
  · exact .bool false
  · exact .nan
  · exact .float _
  · exact .float _

theorem number_is_json {chars rest : List Char} {scalar : Scalar}
    (read : number chars = .ok (scalar, rest)) : (Value.scalar scalar).IsJson := by
  unfold number at read
  split at read
  · cases read
  · split at read
    · cases read
    · rw [← (Prod.mk.inj (Except.ok.inj read)).1]
      exact .int _
  · rw [← (Prod.mk.inj (Except.ok.inj read)).1]
    exact .float _

/-- What the three readers give under one bound. -/
structure GivesJson (limit : Nat) : Prop where
  value : ∀ chars given rest, Json.value limit chars = .ok (given, rest) → given.IsJson
  items : ∀ chars given rest, Json.items limit chars = .ok (given, rest) →
    ∀ item ∈ given, item.IsJson
  members : ∀ chars given rest, Json.members limit chars = .ok (given, rest) →
    ∃ members, given = textEntries members ∧ MembersRead members

variable {limit : Nat} {chars rest : List Char}

theorem GivesJson.value_succ (below : GivesJson limit) {given : Value}
    (read : Json.value (limit + 1) chars = .ok (given, rest)) : given.IsJson := by
  unfold Json.value at read
  split at read
  case h_1 =>
    obtain ⟨⟨text, after⟩, -, same⟩ := map_ok read
    rw [← (Prod.mk.inj same).1]
    exact .text text
  case h_2 =>
    split at read
    · rw [← (Prod.mk.inj (Except.ok.inj read)).1]
      exact .list (List.forall_mem_nil _)
    · obtain ⟨⟨items, after⟩, found, same⟩ := map_ok read
      rw [← (Prod.mk.inj same).1]
      exact .list (below.items _ items after found)
  case h_3 =>
    split at read
    · split at read
      · cases read
      · split at read
        · rw [← (Prod.mk.inj (Except.ok.inj read)).1]
          exact .object (Table.of_list_distinct []) (List.forall_mem_nil _) (List.forall_mem_nil _)
        · obtain ⟨⟨entries, after⟩, found, same⟩ := map_ok read
          obtain ⟨members, rfl, each⟩ := below.members _ entries after found
          rw [← (Prod.mk.inj same).1]
          exact is_json_of_members each
    · split at read
      · rename_i scalar after found
        rw [← (Prod.mk.inj (Except.ok.inj read)).1]
        exact word_is_json found
      · obtain ⟨⟨scalar, after⟩, found, same⟩ := map_ok read
        rw [← (Prod.mk.inj same).1]
        exact number_is_json found
  case h_4 => cases read

theorem GivesJson.items_succ (below : GivesJson limit) {given : List Value}
    (read : Json.items (limit + 1) chars = .ok (given, rest)) : ∀ item ∈ given, item.IsJson := by
  unfold Json.items at read
  obtain ⟨⟨item, after⟩, first, read⟩ := bind_ok read
  have json := below.value chars item after first
  dsimp only at read
  split at read
  · rw [← (Prod.mk.inj (Except.ok.inj read)).1]
    exact List.forall_mem_singleton.mpr json
  · obtain ⟨⟨others, last⟩, found, read⟩ := bind_ok read
    rw [← (Prod.mk.inj (Except.ok.inj read)).1]
    exact List.forall_mem_cons.mpr ⟨json, below.items _ others last found⟩
  · cases read

theorem GivesJson.members_succ (below : GivesJson limit) {given : Entries}
    (read : Json.members (limit + 1) chars = .ok (given, rest)) :
    ∃ members, given = textEntries members ∧ MembersRead members := by
  unfold Json.members at read
  dsimp only at read
  split at read
  case h_2 =>
    obtain ⟨_, refused, -⟩ := bind_ok read
    cases refused
  obtain ⟨⟨name, named⟩, quoted, read⟩ := bind_ok read
  have whole := string_pair_free quoted
  dsimp only at read
  split at read
  case h_2 =>
    obtain ⟨_, refused, -⟩ := bind_ok read
    cases refused
  obtain ⟨start, -, read⟩ := bind_ok read
  obtain ⟨⟨item, after⟩, first, read⟩ := bind_ok read
  have json := below.value _ item after first
  dsimp only at read
  split at read
  · cases read
  split at read
  · rw [← (Prod.mk.inj (Except.ok.inj read)).1]
    exact ⟨[(name, item)], rfl, List.forall_mem_singleton.mpr ⟨whole, json⟩⟩
  split at read
  · obtain ⟨⟨others, last⟩, found, read⟩ := bind_ok read
    obtain ⟨members, rfl, each⟩ := below.members _ others last found
    rw [← (Prod.mk.inj (Except.ok.inj read)).1]
    exact ⟨(name, item) :: members, rfl, List.forall_mem_cons.mpr ⟨⟨whole, json⟩, each⟩⟩
  · cases read

theorem gives_json (limit : Nat) : GivesJson limit := by
  induction limit with
  | zero =>
      constructor
      case value => exact fun _ _ _ read => nomatch read
      case items => exact fun _ _ _ read => nomatch read
      case members => exact fun _ _ _ read => nomatch read
  | succ limit below =>
      constructor
      case value => exact fun _ _ _ read => below.value_succ read
      case items => exact fun _ _ _ read => below.items_succ read
      case members => exact fun _ _ _ read => below.members_succ read

/-- A JSON text gives data as JSON has it. -/
theorem decoded_is_json {text : String} {given : Value} (decoded : decode text = .ok given) :
    given.IsJson := by
  have read := map_error_ok decoded
  unfold document at read
  split at read
  · cases read
  · obtain ⟨⟨result, after⟩, found, read⟩ := bind_ok read
    dsimp only at read
    split at read
    · rw [← Except.ok.inj read]
      exact (gives_json _).value _ _ _ found
    · cases read

end Document.Json

end DtoForge
