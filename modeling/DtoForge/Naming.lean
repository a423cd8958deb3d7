import DtoForge.Text.Lowercase

/-!
Names for types, fields and files. A raw name is cut into words at everything that is not an
ASCII letter or digit; a name that is taken is qualified or numbered until it is free.
-/

namespace DtoForge.Naming

def isWordChar : CodePoint → Bool := CodePoint.isChar Char.isAlphanum

def isLower : CodePoint → Bool := CodePoint.isChar Char.isLower

def isUpper : CodePoint → Bool := CodePoint.isChar Char.isUpper

def toLower : CodePoint → CodePoint := CodePoint.mapChar Char.toLower

def toUpper : CodePoint → CodePoint := CodePoint.mapChar Char.toUpper

/-- The maximal runs of letters and digits. -/
def words : List CodePoint → List (List CodePoint)
  | [] => []
  | c :: rest =>
    if isWordChar c then
      match rest.head?, words rest with
      | some next, word :: others =>
        if isWordChar next then (c :: word) :: others else [c] :: word :: others
      | _, others => [c] :: others
    else words rest

def capitalize : List CodePoint → List CodePoint
  | [] => []
  | c :: rest => toUpper c :: rest

def lowerFirst : List CodePoint → List CodePoint
  | [] => []
  | c :: rest => toLower c :: rest

def unnamedType : Text := "UnnamedRecord"

def emptyField : Text := "empty"

def typeName (raw : Text) : Text :=
  match (words raw.toList).flatMap capitalize with
  | [] => unnamedType
  | name => ⟨name⟩

/-- A raw name that is one word only loses its leading capital; otherwise the first word is
lowered as a whole and the others are capitalized. -/
def fieldName (raw : Text) : Text :=
  let points := raw.toList
  if points.all isWordChar then
    if points.isEmpty then emptyField else ⟨lowerFirst points⟩
  else
    match words points with
    | [] => emptyField
    | head :: tail => ⟨head.map toLower ++ tail.flatMap capitalize⟩

/-- A text cut between a lower-case and an upper-case ASCII letter. -/
def humps : List CodePoint → List (List CodePoint)
  | [] => [[]]
  | c :: rest =>
    match rest.head?, humps rest with
    | some next, hump :: others =>
      if isLower c && isUpper next then [c] :: hump :: others else (c :: hump) :: others
    | _, _ => [[c]]

def snakeCase (name : Text) : Text :=
  ⟨[.char '_'].intercalate ((humps name.toList).map Text.lowerPoints)⟩

def numbered (candidate : Text) (number : Nat) : Text := candidate ++ toString number

/-- The candidate with the least free number from two on. Of as many numbers as there are taken
names, one is free unless the candidate itself is. -/
def firstFree (candidate : Text) (taken : List Text) : Text :=
  match (List.range taken.length).find? fun n => !taken.contains (numbered candidate (n + 2)) with
  | some n => numbered candidate (n + 2)
  | none => numbered candidate (taken.length + 2)

/-- The candidate if it is free, else the candidate after a qualifier that is not empty, else the
first free numbered candidate. -/
def uniquify (candidate : Text) (taken : List Text) (qualifier : Option Text := none) : Text :=
  if !taken.contains candidate then candidate
  else
    match qualifier with
    | none => firstFree candidate taken
    | some qualifier =>
      if qualifier ≠ "" ∧ !taken.contains (qualifier ++ candidate) then qualifier ++ candidate
      else firstFree candidate taken

example : typeName "order-line 2" = "OrderLine2" := by decide +kernel

example : fieldName "HTTP code" = "httpCode" := by decide +kernel

example : snakeCase "OrderLine" = "order_line" := by decide +kernel

end DtoForge.Naming
