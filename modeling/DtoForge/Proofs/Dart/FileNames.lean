import DtoForge.Files.Path
import DtoForge.Proofs.Dart.Units

/-!
What the names of generated files can be trusted with. A name is a stem in lower case, the suffix
and the extension, whatever the record is called. So it is one part of a path and stays in its
directory, and neither letter case nor the part files of the build step make two files meet.
-/

namespace DtoForge.Dart

open Files

/-- The file that the build step writes beside a generated file. -/
def partName (fileName : Text) : Text := dropDartSuffix fileName ++ ".g.dart"

/-- How the names of a unit are made from a stem. The unit's text announces the part file. -/
structure Stemmed (fileSuffix : Text) (unit : OutputUnit) (stem : Text) : Prop where
  spelled : Naming.IsFileStem stem.toList
  file : unit.fileName = stem ++ fileSuffix ++ ".dart"
  part : partName unit.fileName = stem ++ fileSuffix ++ ".g.dart"
  announced : ∃ before after,
    unit.source = before ++ "\npart '" ++ partName unit.fileName ++ "';\n" ++ after

/-- Files that stay in their directory and never meet. -/
structure SafeFiles (fileSuffix : Text) (units : List OutputUnit) : Prop where
  stemmed : ∀ unit ∈ units, ∃ stem, Stemmed fileSuffix unit stem
  inside : ∀ unit ∈ units, ∀ directory : Path,
    (directory.join (Path.parse unit.fileName)).parent = directory ∧ ∀ workingDirectory,
      (directory.join (Path.parse unit.fileName)).absoluteParts workingDirectory =
        directory.absoluteParts workingDirectory ++ [unit.fileName]
  caseDistinct : (units.map fun unit => Text.lower unit.fileName).Nodup
  partsApart : ∀ unit ∈ units, ∀ other ∈ units, unit.fileName ≠ partName other.fileName

variable {stem fileSuffix : Text}

/-! ### The part file -/

theorem drop_dart_suffix (name : Text) : dropDartSuffix (name ++ ".dart") = name := by
  have closed : (".dart" : Text).toList.isSuffixOf (name ++ ".dart").toList = true := by
    rw [List.isSuffixOf_iff_suffix, Text.to_list_append]
    exact List.suffix_append _ _
  simp only [dropDartSuffix, closed, if_true]
  rw [Text.to_list_append, List.length_append, Nat.add_sub_cancel, List.take_left]

theorem part_name_with_suffix (stem fileSuffix : Text) :
    partName (withFileSuffix stem fileSuffix) = stem ++ fileSuffix ++ ".g.dart" := by
  rw [partName, withFileSuffix, drop_dart_suffix]

theorem part_announced (fileName classSuffix : Text) (members : List Record)
    (imports : List Text) : ∃ before after, unitSource fileName classSuffix members imports =
      before ++ "\npart '" ++ partName fileName ++ "';\n" ++ after := by
  let lines : List Text :=
    annotationImport :: imports.map (fun path => "import '" ++ path ++ "';") ++ [("" : Text)]
  let classes := Text.intercalate "\n" (members.map (classText classSuffix))
  have header (part : Text) : Text.intercalate "\n" (lines ++ [part]) =
      Text.intercalate "\n" lines ++ "\n" ++ part :=
    Text.intercalate_concat "\n" part (List.cons_ne_nil _ _)
  refine ⟨Text.intercalate "\n" lines, "\n" ++ classes, ?_⟩
  calc unitSource fileName classSuffix members imports
      = Text.intercalate "\n" (lines ++ ["part '" ++ dropDartSuffix fileName ++ ".g.dart';"]) ++
          "\n\n" ++ classes := by simp [unitSource, lines, classes]
    _ = Text.intercalate "\n" lines ++ "\npart '" ++ partName fileName ++ "';\n" ++
          ("\n" ++ classes) := by
        rw [header, ← Text.to_list_inj]
        simp [partName]

/-! ### The characters of a file name -/

theorem file_chars (stem fileSuffix : Text) : (withFileSuffix stem fileSuffix).toList =
    stem.toList ++ fileSuffix.toList ++ (".dart" : Text).toList := by
  simp [withFileSuffix]

theorem foreign_to_stem {chars : List CodePoint} (stem : Naming.IsStem chars) {c : CodePoint}
    (foreign : Naming.isWordChar c = false) (differ : c ≠ .char '_') : c ∉ chars := by
  intro member
  rcases stem c member with plain | same
  · rw [foreign] at plain
    cases plain
  · exact differ same

theorem stem_ascii {chars : List CodePoint} (stem : Naming.IsStem chars) :
    ∀ c ∈ chars, c.toNat < 128 := by
  intro c member
  rcases stem c member with plain | rfl
  · exact Naming.word_char_ascii plain
  · decide

theorem lower_stem {chars : List CodePoint} (stem : Naming.IsFileStem chars) :
    chars.map Naming.toLower = chars := by
  have each : ∀ c ∈ chars, Naming.toLower c = id c := fun c member =>
    Naming.ascii_forall
      (fun c => Naming.isLower c = true ∨ Naming.isDigit c = true ∨ c = .char '_' →
        Naming.toLower c = id c)
      (by decide) (stem_ascii stem.stem c member) (stem.2 c member)
  rw [List.map_congr_left each, List.map_id]

theorem lower_file_name (spelled : Naming.IsFileStem stem.toList)
    (suffix : Naming.IsStem fileSuffix.toList) :
    (Text.lower (withFileSuffix stem fileSuffix)).toList =
      stem.toList ++ (fileSuffix.toList ++ (".dart" : Text).toList).map Naming.toLower := by
  have ascii : ∀ c ∈ (withFileSuffix stem fileSuffix).toList, c.toNat < 128 := by
    rw [file_chars, List.forall_mem_append, List.forall_mem_append]
    exact ⟨⟨stem_ascii spelled.stem, stem_ascii suffix⟩, by decide⟩
  rw [Text.lower, Text.to_list_of_list, Text.lowerPoints, Naming.lower_after_ascii [] _ ascii,
    file_chars, List.append_assoc, List.map_append, lower_stem spelled]

/-- A file name has one dot, the name of a part file has two. -/
theorem file_ne_part {other : Text} (stemmed : Naming.IsStem stem.toList)
    (otherStemmed : Naming.IsStem other.toList) (suffix : Naming.IsStem fileSuffix.toList) :
    withFileSuffix stem fileSuffix ≠ partName (withFileSuffix other fileSuffix) := by
  intro same
  have dots (chars : List CodePoint) (stem : Naming.IsStem chars) : chars.count (.char '.') = 0 :=
    List.count_eq_zero.mpr (foreign_to_stem stem (by decide) (by decide))
  have counts := congrArg (fun name => name.toList.count (.char '.')) same
  rw [part_name_with_suffix] at counts
  simp [withFileSuffix, dots _ stemmed, dots _ otherStemmed, dots _ suffix] at counts

/-! ### The place of a file -/

theorem pieces_whole {α : Type} [DecidableEq α] {separator : α} {line : List α}
    (whole : separator ∉ line) : Text.pieces separator line = [line] := by
  induction line with
  | nil => rfl
  | cons c rest induction =>
      rw [List.mem_cons, not_or] at whole
      rw [Text.pieces, if_neg (Ne.symm whole.1), induction whole.2]

theorem parse_one_part {name : Text} (whole : CodePoint.char '/' ∉ name.toList) (some : name ≠ "")
    (proper : name ≠ ".") : Path.parse name = ⟨.workingDirectory, [name]⟩ := by
  have anchor : Path.anchorOf name.toList = .workingDirectory := by
    unfold Path.anchorOf
    split <;> simp_all
  rw [Path.parse, anchor, Text.split, pieces_whole whole]
  simp [some, proper]

theorem file_name_proper (stem fileSuffix : Text) {part : Text} (short : part.toList.length < 5) :
    withFileSuffix stem fileSuffix ≠ part := by
  rintro rfl
  rw [file_chars, List.length_append] at short
  have extension : (".dart" : Text).toList.length = 5 := rfl
  omega

theorem parse_file_name (stemmed : Naming.IsStem stem.toList)
    (suffix : Naming.IsStem fileSuffix.toList) :
    Path.parse (withFileSuffix stem fileSuffix) =
      ⟨.workingDirectory, [withFileSuffix stem fileSuffix]⟩ := by
  have proper (part : Text) (short : part.toList.length < 5) :=
    file_name_proper stem fileSuffix short
  refine parse_one_part ?_ (proper "" (by decide)) (proper "." (by decide))
  rw [file_chars, List.mem_append, List.mem_append, not_or, not_or]
  exact ⟨⟨foreign_to_stem stemmed (by decide) (by decide),
    foreign_to_stem suffix (by decide) (by decide)⟩, by decide⟩

theorem join_file_name (stemmed : Naming.IsStem stem.toList)
    (suffix : Naming.IsStem fileSuffix.toList) (directory : Path) :
    directory.join (Path.parse (withFileSuffix stem fileSuffix)) =
      ⟨directory.anchor, directory.parts ++ [withFileSuffix stem fileSuffix]⟩ := by
  rw [parse_file_name stemmed suffix]
  rfl

theorem absolute_file_name (stem fileSuffix : Text) (directory : Path)
    (workingDirectory : List Text) :
    Path.absoluteParts workingDirectory
        ⟨directory.anchor, directory.parts ++ [withFileSuffix stem fileSuffix]⟩ =
      directory.absoluteParts workingDirectory ++ [withFileSuffix stem fileSuffix] := by
  have proper := file_name_proper stem fileSuffix (show (".." : Text).toList.length < 5 by decide)
  have start : Path.isAbsolute
      ⟨directory.anchor, directory.parts ++ [withFileSuffix stem fileSuffix]⟩ =
        directory.isAbsolute := rfl
  rw [Path.absoluteParts, start, List.foldl_append, List.foldl_cons, List.foldl_nil, Path.pushPart,
    if_neg proper, List.reverse_cons]
  rfl

/-! ### All files -/

variable {records : List Record}

theorem Hosted.unit_stemmed (hosted : Hosted records) (classSuffix : Text) {host : Record}
    (held : host ∈ shared records) :
    ∃ stem, Stemmed fileSuffix (unitFor records classSuffix fileSuffix host) stem := by
  obtain ⟨stem, spelled, shape⟩ :=
    file_names_stems fileSuffix [] _ hosted.shared_plain _ (hosted.file_of_mem held)
  have file : fileOf records fileSuffix host.name = withFileSuffix stem fileSuffix := shape
  refine ⟨stem, spelled, file, ?_, part_announced _ _ _ _⟩
  rw [unitFor, file]
  exact part_name_with_suffix stem fileSuffix

theorem Hosted.files_safe (hosted : Hosted records) (classSuffix : Text)
    (suffix : Naming.IsStem fileSuffix.toList) :
    SafeFiles fileSuffix (outputUnits records classSuffix fileSuffix) := by
  have stemmed : ∀ unit ∈ outputUnits records classSuffix fileSuffix,
      ∃ stem, Stemmed fileSuffix unit stem := by
    rw [output_units_eq, List.forall_mem_map]
    exact fun host held => hosted.unit_stemmed classSuffix held
  constructor
  case stemmed => exact stemmed
  case inside =>
    intro unit listed directory
    obtain ⟨stem, spelled, file, -⟩ := stemmed unit listed
    have whole : unit.fileName = withFileSuffix stem fileSuffix := file
    rw [whole, join_file_name spelled.stem suffix]
    refine ⟨?_, absolute_file_name stem fileSuffix directory⟩
    rw [Path.parent, List.dropLast_concat]
  case caseDistinct =>
    have files : ((outputUnits records classSuffix fileSuffix).map (·.fileName)).Nodup :=
      hosted.files_distinct classSuffix
    refine (files.of_map _).map_on ?_
    intro left leftListed right rightListed same
    obtain ⟨leftStem, leftSpelled, leftFile, -⟩ := stemmed left leftListed
    obtain ⟨rightStem, rightSpelled, rightFile, -⟩ := stemmed right rightListed
    have lowered := congrArg Text.toList same
    have stems : leftStem = rightStem := by
      rw [leftFile, rightFile] at lowered
      have aligned := (lower_file_name leftSpelled suffix).symm.trans
        (lowered.trans (lower_file_name rightSpelled suffix))
      exact Text.to_list_inj.mp (List.append_cancel_right aligned)
    apply List.inj_on_of_nodup_map files leftListed rightListed
    rw [leftFile, rightFile, stems]
  case partsApart =>
    intro unit listed other otherListed
    obtain ⟨stem, spelled, file, -⟩ := stemmed unit listed
    obtain ⟨otherStem, otherSpelled, otherFile, -⟩ := stemmed other otherListed
    rw [file, otherFile]
    exact file_ne_part spelled.stem otherSpelled.stem suffix

end DtoForge.Dart
