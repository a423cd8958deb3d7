import DtoForge.Text.Basic

/-!
Likeness of names, for suggesting an option in place of an unknown one. Two names are as alike as
the characters that they share in common blocks: the longest block first, then the same on either
side of it.
-/

namespace DtoForge.CommandLine

def commonStart : List CodePoint → List CodePoint → Nat
  | a :: left, b :: right => if a = b then commonStart left right + 1 else 0
  | _, _ => 0

/-- The longest common block as its two starts and its length: the first one in the first text,
and of those the first one in the second text. -/
def longestBlock (left right : List CodePoint) : Nat × Nat × Nat :=
  let starts := (List.range left.length).flatMap fun i =>
    (List.range right.length).map fun j => (i, j)
  starts.foldl
    (fun best (i, j) =>
      let length := commonStart (left.drop i) (right.drop j)
      if best.2.2 < length then (i, j, length) else best)
    (0, 0, 0)

/-- The number of characters in common blocks. The bound is the length of the first text. -/
def sharedWithin : Nat → List CodePoint → List CodePoint → Nat
  | 0, _, _ => 0
  | limit + 1, left, right =>
    match longestBlock left right with
    | (_, _, 0) => 0
    | (i, j, length) =>
      length + sharedWithin limit (left.take i) (right.take j) +
        sharedWithin limit (left.drop (i + length)) (right.drop (j + length))

def shared (left right : List CodePoint) : Nat := sharedWithin (left.length + 1) left right

structure Score where
  shared : Nat
  total : Nat

/-- At least three characters in five are shared. -/
def Score.isClose (score : Score) : Bool := 3 * score.total ≤ 5 * score.shared

def Score.lt (left right : Score) : Bool := left.shared * right.total < right.shared * left.total

def scoreOf (candidate name : Text) : Score :=
  ⟨2 * shared candidate.toList name.toList, candidate.length + name.length⟩

/-- The better of two scored names comes first; of equally good ones the greater name. -/
def betterFirst (left right : Score × Text) : Bool :=
  right.1.lt left.1 || (!left.1.lt right.1 && !decide (left.2 < right.2))

/-- Up to three candidates that are close to a name, in alphabetical order. -/
def suggestions (name : Text) (candidates : List Text) : List Text :=
  let scored := (candidates.map fun candidate => (scoreOf candidate name, candidate)).filter
    (·.1.isClose)
  let best := ((scored.mergeSort betterFirst).take 3).map (·.2)
  best.mergeSort fun left right => !decide (right < left)

end DtoForge.CommandLine
