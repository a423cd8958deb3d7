import DtoForge.Document.Example

/-!
Where the example response comes from. The candidates of an interface description are the values
under two paths of each response, in the order of the document. Of an operation the search looks at
the first candidate only; when that one is null, the others of the operation are passed over. So the
search finds the first candidate that is not null among the operations which do not begin with a
null one in vain, and it need not be the first of all.
-/

namespace DtoForge.Document

/-! ### Candidates -/

/-- The value at the end of a path of text keys. A level that is no mapping ends the path. -/
def Value.at? : Value → List Text → Option Value
  | value, [] => some value
  | value, name :: rest => (value.field? name).bind fun inner => inner.at? rest

def examplePaths : List (List Text) :=
  [["content", jsonMediaType, "example"], ["content", jsonMediaType, "schema", "example"]]

def operations (paths : Value) : List Value := paths.children.flatMap Value.children

def operationCandidates (operation : Value) : List Value :=
  let responses := (operation.at? ["responses"]).toList.flatMap Value.children
  responses.flatMap fun response => examplePaths.filterMap response.at?

/-- The examples of a description in the order of the document. -/
def candidates (paths : Value) : List Value := (operations paths).flatMap operationCandidates

def usable (value : Value) : Bool := !value.isNull

/-- A null candidate stands first, and the operation has others that are not null. -/
def hides (operation : Value) : Bool :=
  (operationCandidates operation).head?.any Value.isNull && (operationCandidates operation).any
    usable

/-- The operations whose examples the search sees. -/
def seen (paths : Value) : List Value := (operations paths).filter fun operation => !hides operation

/-- The first operation that has an example at all does not hide it. -/
def FirstShows (paths : Value) : Prop :=
  ∀ operation, (operations paths).find? (fun other => (operationCandidates other).any usable) =
    some operation → hides operation = false

/-! ### One operation -/

theorem response_example_eq (response : Value) :
    responseExample? response = (examplePaths.filterMap response.at?).head? := by
  unfold responseExample? mediaExample? examplePaths
  cases content : response.field? "content" with
  | none => simp [Value.at?, content]
  | some inner =>
      cases media : inner.field? jsonMediaType with
      | none => simp [Value.at?, content, media]
      | some object =>
          cases beside : object.field? "example" <;> cases schema : object.field? "schema" <;>
            simp [Value.at?, content, media, beside, schema]

/-- An operation is asked for the first of its candidates, and for no other if that one is null. -/
theorem operation_example_eq (operation : Value) :
    operationExample? operation = (operationCandidates operation).head?.filter usable := by
  unfold operationExample? operationCandidates
  cases found : operation.field? "responses" with
  | none => simp [Value.at?, found]
  | some responses =>
      have asked : (responses.children.flatMap fun response =>
          examplePaths.filterMap response.at?).head? =
            responses.children.findSome? responseExample? := by
        rw [List.head?_flatMap]
        apply congrArg (responses.children.findSome? ·)
        funext response
        exact (response_example_eq response).symm
      simp only [Value.at?, found, Option.bind_eq_bind, Option.bind_some, Option.toList_some,
        List.flatMap_singleton, asked]
      cases responses.children.findSome? responseExample? with
      | none => rfl
      | some first => cases null : first.isNull <;> simp [usable, null, Option.filter]

theorem operation_example_cases (operation : Value) :
    operationExample? operation =
      if hides operation then none else (operationCandidates operation).find? usable := by
  rw [operation_example_eq]
  unfold hides
  cases operationCandidates operation with
  | nil => rfl
  | cons first others =>
      by_cases null : first.isNull = true
      · have unusable : usable first = false := by simp [usable, null]
        by_cases more : others.any usable = true
        · simp [Option.filter, unusable, null, more]
        · have none : others.find? usable = none := by simpa using more
          simp [Option.filter, unusable, null, more, none]
      · have shown : usable first = true := by simp [usable, null]
        simp [Option.filter, shown, null]

/-! ### The whole description -/

theorem find_some_seen (described : List Value) :
    described.findSome? operationExample? =
      ((described.filter fun operation => !hides operation).flatMap operationCandidates).find?
        usable := by
  induction described with
  | nil => rfl
  | cons operation rest induction =>
      rw [List.findSome?_cons, operation_example_cases, induction]
      by_cases hidden : hides operation = true
      · simp [hidden]
      · simp only [hidden, Bool.not_false, List.filter_cons_of_pos, List.flatMap_cons,
          List.find?_append]
        cases (operationCandidates operation).find? usable <;> rfl

theorem find_usable_shown (described : List Value)
    (shows : ∀ operation, described.find? (fun other => (operationCandidates other).any usable) =
      some operation → hides operation = false) :
    described.findSome? operationExample? =
      (described.flatMap operationCandidates).find? usable := by
  induction described with
  | nil => rfl
  | cons operation rest induction =>
      rw [List.findSome?_cons, operation_example_cases, List.flatMap_cons, List.find?_append]
      rw [List.find?_cons] at shows
      cases some : (operationCandidates operation).any usable with
      | true =>
          have shown : hides operation = false := by
            apply shows
            rw [some]
          obtain ⟨value, held, isUsable⟩ := List.any_eq_true.mp some
          rw [shown]
          cases found : (operationCandidates operation).find? usable with
          | none => exact absurd isUsable (List.find?_eq_none.mp found value held)
          | some first => rfl
      | false =>
          have none : (operationCandidates operation).find? usable = none := by simpa using some
          rw [some] at shows
          rw [none, induction shows]
          cases hides operation <;> rfl

/-- The search gives the first usable example among the operations that do not hide theirs, and
nothing just if these have none. It is the first of all examples that are not null, unless the first
operation that has one begins with a null one. -/
theorem first_example_unless_null_first (paths : Value) :
    responseExample paths = ((seen paths).flatMap operationCandidates).find? usable ∧
      (responseExample paths = none ↔ ∀ operation ∈ operations paths,
        hides operation = true ∨ ∀ value ∈ operationCandidates operation, value.isNull = true) ∧
      (FirstShows paths → responseExample paths = (candidates paths).find? usable) := by
  have found : responseExample paths = ((seen paths).flatMap operationCandidates).find? usable :=
    find_some_seen (operations paths)
  refine ⟨found, ?_, find_usable_shown (operations paths)⟩
  rw [found, List.find?_eq_none]
  constructor
  · intro unusable operation described
    by_cases hidden : hides operation = true
    · exact Or.inl hidden
    · apply Or.inr
      intro value held
      have kept : operation ∈ seen paths :=
        List.mem_filter.mpr ⟨described, by simpa using hidden⟩
      simpa [usable] using unusable value (List.mem_flatMap.mpr ⟨operation, kept, held⟩)
  · intro covered value listed
    obtain ⟨operation, kept, held⟩ := List.mem_flatMap.mp listed
    obtain ⟨described, shown⟩ := List.mem_filter.mp kept
    have null := (covered operation described).resolve_left (by simpa using shown)
    simp [usable, null value held]

def tripPaths (get post : Entries) : Value :=
  let operation (media : Entries) : Value :=
    .map [(.text "responses", .map [(.text "200", .map [(.text "content",
      .map [(.text jsonMediaType, .map media)])])])]
  .map [(.text "/trips", .map [(.text "summary", .text "trips"), (.text "get", operation get),
    (.text "post", operation post)])]

def createdTrip : Value :=
  tripPaths [(.text "example", .null)] [(.text "schema", .map [(.text "example", .text "Oslo")])]

theorem first_example_of_created_trip :
    FirstShows createdTrip ∧ responseExample createdTrip =
      (candidates createdTrip).find? usable := by
  have shows : FirstShows createdTrip := by
    intro operation found
    cases found
    rfl
  exact ⟨shows, (first_example_unless_null_first createdTrip).2.2 shows⟩

def shadowedTrip : Value :=
  tripPaths [(.text "example", .null), (.text "schema", .map [(.text "example", .text "Oslo")])] []

theorem null_example_hides :
    responseExample shadowedTrip = none ∧
      (candidates shadowedTrip).find? usable = some (.text "Oslo") :=
  ⟨rfl, rfl⟩

end DtoForge.Document
