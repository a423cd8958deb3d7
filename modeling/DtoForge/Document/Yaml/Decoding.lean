import DtoForge.Document.Yaml.Content
import DtoForge.Document.Yaml.Node

/-!
Values of nodes. Of several faults the one at the least depth counts, and at one depth the first;
merge keys of a mapping are looked at before its entries. Merged entries stand before the entries
of their own mapping, which override them. An empty list stands for a loop.
-/

namespace DtoForge.Document.Yaml

/-- A fault with its rank: a smaller one is met earlier. -/
abbrev Ranked := Nat × Fault

/-- Joins two parts, of which the first comes before the second at the same rank. -/
def joinRanked {α β γ : Type} (join : α → β → γ) (first : Except Ranked α)
    (second : Except Ranked β) : Except Ranked γ :=
  match first, second with
  | .ok a, .ok b => .ok (join a b)
  | .error fault, .ok _ => .error fault
  | .ok _, .error fault => .error fault
  | .error fault, .error other => .error (if other.1 < fault.1 then other else fault)

def rankAt (depth : Nat) : Nat := 2 * depth + 1

/-- The rank of what is met when a mapping at a depth is merged, before its entries. -/
def mergeRank (depth : Nat) : Nat := 2 * depth

def malformedAt {α : Type} (rank : Nat) : Except Ranked α := .error (rank, .malformed)

/-- The key that a value at a depth gives. Only scalars can be keys, and a collection is refused
before its parts are met. -/
def keyOf (depth : Nat) : Except Ranked Value → Except Ranked Scalar
  | .ok (.scalar key) => .ok key
  | .ok _ => malformedAt (rankAt depth)
  | .error (rank, fault) =>
    if rankAt depth < rank then malformedAt (rankAt depth) else .error (rank, fault)

structure Parts where
  merged : Except Ranked (List (Scalar × Value))
  own : Except Ranked (List (Scalar × Value))

def Parts.all (parts : Parts) : Except Ranked (List (Scalar × Value)) :=
  joinRanked (· ++ ·) parts.merged parts.own

def Parts.none : Parts := ⟨.ok [], .ok []⟩

/-- Puts merged entries before the ones that later keys merge. -/
def Parts.addMerged (parts : Parts) (entries : Except Ranked (List (Scalar × Value))) : Parts :=
  { parts with merged := joinRanked (· ++ ·) entries parts.merged }

def Parts.addOwn (parts : Parts) (key : Except Ranked Scalar) (value : Except Ranked Value) :
    Parts :=
  { parts with own := joinRanked (· :: ·) (joinRanked Prod.mk key value) parts.own }

/-- The text of a node that is used as a scalar; a mapping is represented by its default entry. -/
def textOf : Node → Except Fault Text
  | .scalar _ text => .ok text
  | .sequence _ _ => .error .malformed
  | .mapping _ pairs => textOfPairs pairs
  | .loop => .error .endless
where
  textOfPairs : List (Node × Node) → Except Fault Text
    | [] => .error .malformed
    | (key, value) :: rest =>
      match key with
      | .scalar .value _ => textOf value
      | .scalar _ _ | .sequence _ _ | .mapping _ _ | .loop => textOfPairs rest

def isScalarTag : Tag → Bool
  | .null | .bool | .int | .float | .binary | .timestamp | .str => true
  | _ => false

def scalarOf (depth : Nat) (tag : Tag) (node : Node) : Except Ranked Value :=
  (((textOf node).bind (scalarValue tag)).map .scalar).mapError (rankAt depth, ·)

mutual

/-- The value of a node at a depth. The parts of a collection are met one level deeper. -/
def valueAt (depth : Nat) : Node → Except Ranked Value
  | .loop => .ok (.list [])
  | .scalar tag text =>
    if isScalarTag tag then scalarOf depth tag (.scalar tag text)
    else
      match tag with
      | .seq | .map | .set | .omap | .pairs => malformedAt (rankAt (depth + 1))
      | _ => malformedAt (rankAt depth)
  | .sequence tag items =>
    match tag with
    | .seq => (itemsAt (depth + 1) items).map .list
    | .omap | .pairs => (singlePairsAt (depth + 1) items).map .list
    | .map | .set => malformedAt (rankAt (depth + 1))
    | _ => malformedAt (rankAt depth)
  | .mapping tag pairs =>
    match tag with
    | .map => ((partsAt (depth + 1) pairs).all).map fun entries => .map (Entries.ofList entries)
    | .set =>
      ((partsAt (depth + 1) pairs).all).map fun entries =>
        .set ((Entries.ofList entries).map (·.1))
    | .seq | .omap | .pairs => malformedAt (rankAt (depth + 1))
    | _ =>
      if isScalarTag tag then scalarOf depth tag (.mapping tag pairs)
      else malformedAt (rankAt depth)

def itemsAt (depth : Nat) : List Node → Except Ranked (List Value)
  | [] => .ok []
  | item :: rest => joinRanked (· :: ·) (valueAt depth item) (itemsAt depth rest)

def singlePairsAt (depth : Nat) : List Node → Except Ranked (List Value)
  | [] => .ok []
  | item :: rest =>
    match item with
    | .mapping _ [(key, value)] =>
      joinRanked (· :: ·) (joinRanked .pair (valueAt depth key) (valueAt depth value))
        (singlePairsAt depth rest)
    | .loop => singlePairsAt depth rest
    | .scalar _ _ | .sequence _ _ | .mapping _ _ => malformedAt (rankAt depth)

def partsAt (depth : Nat) : List (Node × Node) → Parts
  | [] => .none
  | (key, value) :: rest =>
    match key with
    | .scalar .merge _ => (partsAt depth rest).addMerged (mergedFrom depth value)
    | .scalar .value text => (partsAt depth rest).addOwn (.ok (.text text)) (valueAt depth value)
    | .scalar _ _ | .sequence _ _ | .mapping _ _ | .loop =>
      (partsAt depth rest).addOwn (keyOf depth (valueAt depth key)) (valueAt depth value)

/-- The entries that a merge key brings: those of a mapping, or of the mappings of a sequence,
the last one first. -/
def mergedFrom (depth : Nat) : Node → Except Ranked (List (Scalar × Value))
  | .loop => .ok []
  | .scalar _ _ => malformedAt (mergeRank depth)
  | .mapping _ pairs => (partsAt depth pairs).all
  | .sequence _ items => mergedItems depth items

def mergedItems (depth : Nat) : List Node → Except Ranked (List (Scalar × Value))
  | [] => .ok []
  | item :: rest =>
    match item with
    | .mapping _ pairs =>
      joinRanked (fun later entries => later ++ entries) (mergedItems depth rest)
        (partsAt depth pairs).all
    | .loop => mergedItems depth rest
    | .scalar _ _ | .sequence _ _ => malformedAt (mergeRank depth)

end

mutual

def loops : Node → Bool
  | .loop => true
  | .scalar _ _ => false
  | .sequence _ items => itemsLoop items
  | .mapping _ pairs => pairsLoop pairs

def itemsLoop : List Node → Bool
  | [] => false
  | item :: rest => loops item || itemsLoop rest

def pairsLoop : List (Node × Node) → Bool
  | [] => false
  | (key, value) :: rest => loops key || loops value || pairsLoop rest

end

def decode (text : String) : Except Fault Value :=
  match nodeOf text with
  | .error fault => .error fault
  | .ok none => .ok .null
  | .ok (some root) => (valueAt 0 root).mapError (·.2)

/-- The text has a value, and a loop in it. -/
def isEndless (text : String) : Bool :=
  match nodeOf text with
  | .ok (some root) => loops root && (valueAt 0 root).isOk
  | .ok none | .error _ => false

end DtoForge.Document.Yaml
