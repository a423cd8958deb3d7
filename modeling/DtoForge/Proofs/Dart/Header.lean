import DtoForge.Dart.Unit
import DtoForge.Text.Split

/-!
The imports of a generated file, read back from its text: the import lines that follow the first
line, which is the import of the annotations. The empty line behind them ends the reading, so the
classes play no part in it.
-/

namespace DtoForge.Dart

def importOpening : Text := "import '"

def importClosing : Text := "';"

def importPath? (line : List CodePoint) : Option Text :=
  let opening := importOpening.toList
  let closing := importClosing.toList
  if opening.isPrefixOf line && closing.isSuffixOf line then
    let path := line.drop opening.length
    some (Text.ofList (path.take (path.length - closing.length)))
  else none

def leadingImports : List (List CodePoint) → List Text
  | [] => []
  | line :: rest =>
    match importPath? line with
    | some path => path :: leadingImports rest
    | none => []

def importsOf (source : Text) : List Text :=
  leadingImports (Text.pieces (.char '\n') source.toList).tail

def importLine (path : Text) : Text := importOpening ++ path ++ importClosing

theorem import_path_line (path : Text) : importPath? (importLine path).toList = some path := by
  have opened : importOpening.toList.isPrefixOf (importLine path).toList = true := by
    rw [List.isPrefixOf_iff_prefix, importLine, Text.append_assoc, Text.to_list_append]
    exact List.prefix_append _ _
  have closed : importClosing.toList.isSuffixOf (importLine path).toList = true := by
    rw [List.isSuffixOf_iff_suffix, importLine, Text.to_list_append]
    exact List.suffix_append _ _
  have inner : (importLine path).toList.drop importOpening.toList.length =
      path.toList ++ importClosing.toList := by
    rw [importLine, Text.append_assoc, Text.to_list_append, Text.to_list_append, List.drop_left]
  simp only [importPath?, opened, closed, inner, Bool.and_self, if_true, List.length_append,
    Nat.add_sub_cancel, List.take_left]

theorem pieces_line {line : List CodePoint} (whole : CodePoint.char '\n' ∉ line)
    (rest : List CodePoint) :
    Text.pieces (.char '\n') (line ++ .char '\n' :: rest) =
      line :: Text.pieces (.char '\n') rest := by
  induction line with
  | nil => simp [Text.pieces]
  | cons c line induction =>
      rw [List.mem_cons, not_or] at whole
      simp [Text.pieces, Ne.symm whole.1, induction whole.2]

theorem split_first_line {line : Text} (whole : CodePoint.char '\n' ∉ line.toList)
    {lines : List Text} (some : lines ≠ []) (rest : Text) :
    Text.pieces (.char '\n') (Text.intercalate "\n" (line :: lines) ++ rest).toList =
      line.toList :: Text.pieces (.char '\n') (Text.intercalate "\n" lines ++ rest).toList := by
  rw [Text.intercalate_cons _ _ some, ← pieces_line whole]
  simp [Text.to_list_append]

theorem leading_imports_lines (imports : List Text)
    (whole : ∀ path ∈ imports, CodePoint.char '\n' ∉ path.toList) (part rest : Text) :
    leadingImports (Text.pieces (.char '\n')
      (Text.intercalate "\n" (imports.map importLine ++ [("" : Text), part]) ++ rest).toList) =
      imports := by
  induction imports with
  | nil =>
      rw [List.map_nil, List.nil_append,
        split_first_line (by decide) (List.cons_ne_nil _ _) rest]
      rfl
  | cons path imports induction =>
      obtain ⟨first, others⟩ := List.forall_mem_cons.mp whole
      have line : CodePoint.char '\n' ∉ (importLine path).toList := by
        simp [importLine, importOpening, importClosing, first]
      rw [List.map_cons, List.cons_append, split_first_line line (by simp) rest, leadingImports,
        import_path_line]
      dsimp only
      rw [induction others]

theorem imports_of_unit_source (fileName classSuffix : Text) (members : List Record)
    (imports : List Text) (whole : ∀ path ∈ imports, CodePoint.char '\n' ∉ path.toList) :
    importsOf (unitSource fileName classSuffix members imports) = imports := by
  have first : CodePoint.char '\n' ∉ annotationImport.toList := by decide
  have lines : imports.map (fun path : Text => ("import '" : Text) ++ path ++ "';") =
      imports.map importLine := rfl
  simp only [importsOf, unitSource]
  rw [lines, Text.append_assoc, List.cons_append, split_first_line first (by simp), List.tail_cons]
  exact leading_imports_lines imports whole _ _

example : importsOf (unitSource "trip.dart" "Dto" [] ["town.dart"]) = [("town.dart" : Text)] := by
  decide +kernel

end DtoForge.Dart
