import DtoForge.Text.Basic

/-!
Tables with text keys that remember the order in which their keys first came. Binding a key anew
keeps its place.
-/

namespace DtoForge

abbrev Table (α : Type) := List (Text × α)

namespace Table

variable {α : Type}

def get? (table : Table α) (key : Text) : Option α :=
  match table with
  | [] => none
  | (other, value) :: rest => if other = key then some value else get? rest key

def put (table : Table α) (key : Text) (value : α) : Table α :=
  match table with
  | [] => [(key, value)]
  | (other, old) :: rest =>
    if other = key then (other, value) :: rest else (other, old) :: put rest key value

def contains (table : Table α) (key : Text) : Bool := (table.get? key).isSome

def keys (table : Table α) : List Text := table.map (·.1)

def ofList (pairs : List (Text × α)) : Table α :=
  pairs.foldl (fun table pair => put table pair.1 pair.2) []

theorem get_put_self (table : Table α) (key : Text) (value : α) :
    (table.put key value).get? key = some value := by
  induction table with
  | nil => simp [put, get?]
  | cons entry rest induction =>
      obtain ⟨other, old⟩ := entry
      by_cases same : other = key <;> simp [put, get?, same, induction]

theorem get_put_of_ne (table : Table α) (key other : Text) (value : α) (differ : other ≠ key) :
    (table.put key value).get? other = table.get? other := by
  induction table with
  | nil => simp [put, get?, Ne.symm differ]
  | cons entry rest induction =>
      obtain ⟨name, old⟩ := entry
      by_cases same : name = key
      · subst same
        simp [put, get?, Ne.symm differ]
      · simp only [put, same, if_false, get?, induction]

theorem keys_put (table : Table α) (key : Text) (value : α) :
    (table.put key value).keys = if key ∈ table.keys then table.keys else table.keys ++ [key] := by
  induction table with
  | nil => simp [put, keys]
  | cons entry rest induction =>
      obtain ⟨name, old⟩ := entry
      by_cases same : name = key
      · simp [put, keys, same]
      · simp only [put, same, if_false, keys, List.map_cons, List.mem_cons, Ne.symm same, false_or]
        simp only [keys] at induction
        rw [induction]
        by_cases member : key ∈ rest.map (·.1) <;> simp [member]

theorem get_eq_none_iff (table : Table α) (key : Text) :
    table.get? key = none ↔ key ∉ table.keys := by
  induction table with
  | nil => simp [get?, keys]
  | cons entry rest induction =>
      obtain ⟨other, value⟩ := entry
      by_cases same : other = key
      · simp [get?, keys, same]
      · simp only [get?, same, if_false, keys, List.map_cons, List.mem_cons, Ne.symm same, false_or]
        exact induction

theorem contains_iff (table : Table α) (key : Text) :
    table.contains key = true ↔ key ∈ table.keys := by
  have absent := get_eq_none_iff table key
  unfold contains
  cases found : table.get? key with
  | none => simpa [found] using absent
  | some value => simpa [found] using absent

theorem mem_of_get (table : Table α) (key : Text) (value : α)
    (found : table.get? key = some value) : (key, value) ∈ table := by
  induction table with
  | nil => simp [get?] at found
  | cons entry rest induction =>
      obtain ⟨other, old⟩ := entry
      by_cases same : other = key
      · simp only [get?, same, if_true, Option.some.injEq] at found
        simp [same, found]
      · simp only [get?, same, if_false] at found
        exact List.mem_cons_of_mem _ (induction found)

theorem mem_keys_of_mem (table : Table α) (key : Text) (value : α)
    (member : (key, value) ∈ table) : key ∈ table.keys :=
  List.mem_map_of_mem (f := (·.1)) member

theorem get_of_mem (table : Table α) (key : Text) (value : α) (distinct : table.keys.Nodup)
    (member : (key, value) ∈ table) : table.get? key = some value := by
  induction table with
  | nil => cases member
  | cons entry rest induction =>
      obtain ⟨other, old⟩ := entry
      simp only [keys, List.map_cons, List.nodup_cons] at distinct
      rcases List.mem_cons.mp member with equal | later
      · simp only [Prod.mk.injEq] at equal
        simp [get?, equal.1, equal.2]
      · have differ : other ≠ key := by
          intro same
          exact distinct.1 (same ▸ mem_keys_of_mem rest key value later)
        simp only [get?, differ, if_false]
        exact induction distinct.2 later

/-- Tables without repeated keys that hold the same bindings are the same to a look-up. -/
theorem get_congr (left right : Table α) (leftDistinct : left.keys.Nodup)
    (rightDistinct : right.keys.Nodup) (same : ∀ pair, pair ∈ left ↔ pair ∈ right) :
    left.get? = right.get? := by
  funext key
  apply Option.ext
  intro value
  constructor
  · intro found
    exact get_of_mem _ _ _ rightDistinct ((same _).mp (mem_of_get _ _ _ found))
  · intro found
    exact get_of_mem _ _ _ leftDistinct ((same _).mpr (mem_of_get _ _ _ found))

theorem put_of_absent (table : Table α) (key : Text) (value : α) (absent : key ∉ table.keys) :
    table.put key value = table ++ [(key, value)] := by
  induction table with
  | nil => rfl
  | cons entry rest induction =>
      obtain ⟨other, old⟩ := entry
      simp only [keys, List.map_cons, List.mem_cons, not_or] at absent
      simp only [put, Ne.symm absent.1, if_false, List.cons_append, List.cons.injEq, true_and]
      exact induction absent.2

theorem mem_put {table : Table α} {key : Text} {value : α} {pair : Text × α}
    (held : pair ∈ table.put key value) : pair ∈ table ∨ pair = (key, value) := by
  induction table with
  | nil => exact Or.inr (List.mem_singleton.mp held)
  | cons head rest induction =>
      unfold put at held
      split at held
      · rename_i same
        rcases List.mem_cons.mp held with rfl | later
        · exact Or.inr (same ▸ rfl)
        · exact Or.inl (List.mem_cons_of_mem _ later)
      · rcases List.mem_cons.mp held with rfl | later
        · exact Or.inl List.mem_cons_self
        · exact (induction later).imp (List.mem_cons_of_mem _) id

theorem get_append (left right : Table α) (key : Text) :
    get? (left ++ right) key = (left.get? key).or (right.get? key) := by
  induction left with
  | nil => simp [get?]
  | cons entry rest induction =>
      obtain ⟨other, old⟩ := entry
      by_cases same : other = key
      · simp [get?, same]
      · simp only [List.cons_append, get?, same, if_false, induction]

theorem put_distinct {table : Table α} (distinct : table.keys.Nodup) (key : Text) (value : α) :
    (table.put key value).keys.Nodup := by
  rw [keys_put]
  split
  · exact distinct
  · rename_i absent
    refine List.nodup_append.mpr ⟨distinct, List.pairwise_singleton _ _, ?_⟩
    intro held member other single same
    rw [List.mem_singleton.mp single] at same
    exact absent (same ▸ member)

theorem foldl_put_distinct (pairs : List (Text × α)) {table : Table α}
    (distinct : table.keys.Nodup) :
    (keys (pairs.foldl (fun table pair => put table pair.1 pair.2) table)).Nodup := by
  induction pairs generalizing table with
  | nil => exact distinct
  | cons pair rest induction => exact induction (put_distinct distinct pair.1 pair.2)

theorem of_list_distinct (pairs : List (Text × α)) : (keys (ofList pairs)).Nodup :=
  foldl_put_distinct pairs List.nodup_nil

theorem mem_foldl_put {pairs : List (Text × α)} {table : Table α} {pair : Text × α}
    (held : pair ∈ pairs.foldl (fun table pair => put table pair.1 pair.2) table) :
    pair ∈ table ∨ pair ∈ pairs := by
  induction pairs generalizing table with
  | nil => exact Or.inl held
  | cons given rest induction =>
      rcases induction held with early | later
      · exact (mem_put early).imp id fun (new : pair = given) => new ▸ List.mem_cons_self
      · exact Or.inr (List.mem_cons_of_mem _ later)

theorem mem_of_list {pairs : List (Text × α)} {pair : Text × α} (held : pair ∈ ofList pairs) :
    pair ∈ pairs := (mem_foldl_put held).resolve_left List.not_mem_nil

theorem foldl_put_of_distinct (table : Table α) (pairs : List (Text × α))
    (distinct : (keys (table ++ pairs)).Nodup) :
    pairs.foldl (fun table pair => put table pair.1 pair.2) table = table ++ pairs := by
  induction pairs generalizing table with
  | nil => simp
  | cons pair rest induction =>
      have absent : pair.1 ∉ table.keys := by
        intro held
        rw [keys, List.map_append] at distinct
        exact (List.nodup_append.mp distinct).2.2 pair.1 held pair.1 (by simp) rfl
      rw [List.foldl_cons, put_of_absent _ _ _ absent, induction _ (by simpa using distinct)]
      simp

theorem of_list_of_distinct (pairs : List (Text × α)) (distinct : (keys pairs).Nodup) :
    ofList pairs = pairs :=
  foldl_put_of_distinct [] pairs distinct

end Table

end DtoForge
