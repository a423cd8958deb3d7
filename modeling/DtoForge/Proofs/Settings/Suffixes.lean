import DtoForge.Proofs.Naming.Spelling
import DtoForge.Proofs.Steps
import DtoForge.Settings.Basic

/-!
The suffixes that loading can give: letters, digits and underscores, whether they were written in a
configuration file or left at their defaults.
-/

namespace DtoForge.Settings

open Document

/-- The suffixes of some output settings may stand in an identifier. -/
structure PlainSuffixes (output : OutputSettings) : Prop where
  classSuffix : Naming.IsStem output.classSuffix.toList
  fileSuffix : Naming.IsStem output.fileSuffix.toList

theorem identifier_part_stem {name : Text} {value : Value} {part : Text}
    (read : identifierPartOf name value = .ok part) : Naming.IsStem part.toList := by
  unfold identifierPartOf at read
  split at read
  · cases read
    exact List.forall_mem_nil _
  · dsimp only at read
    split at read
    · rename_i plain
      cases read
      intro c member
      have allowed := List.all_eq_true.mp plain c member
      cases c with
      | char c => simpa [isIdentifierChar, Naming.isWordChar, CodePoint.isChar] using allowed
      | surrogate => cases allowed
    · cases read
  · cases read

theorem setting_stem {entries : Entries} {key name default part : Text}
    (start : Naming.IsStem default.toList)
    (read : settingOr entries key default (identifierPartOf name) = .ok part) :
    Naming.IsStem part.toList := by
  unfold settingOr at read
  split at read
  · cases read
    exact start
  · exact identifier_part_stem read

theorem default_suffixes_plain : PlainSuffixes {} where
  classSuffix := by decide
  fileSuffix := by decide

theorem output_suffixes_plain {tree : Files.Tree} {base : Files.Path} {root : Entries}
    {output : OutputSettings} (read : outputOf tree base root = .ok output) :
    PlainSuffixes output := by
  obtain ⟨entries, -, read⟩ := bind_ok read
  obtain ⟨given, -, read⟩ := bind_ok read
  obtain ⟨directory, -, read⟩ := bind_ok read
  obtain ⟨classSuffix, classRead, read⟩ := bind_ok read
  obtain ⟨fileSuffix, fileRead, read⟩ := bind_ok read
  cases read
  exact ⟨setting_stem default_suffixes_plain.classSuffix classRead,
    setting_stem default_suffixes_plain.fileSuffix fileRead⟩

theorem entries_suffixes_plain {tree : Files.Tree} {path : Files.Path} {entries : Entries}
    {settings : Settings} (read : ofValue.ofEntries tree path entries = .ok settings) :
    PlainSuffixes settings.output := by
  obtain ⟨resolution, -, read⟩ := bind_ok read
  obtain ⟨output, outputRead, read⟩ := bind_ok read
  cases read
  exact output_suffixes_plain outputRead

/-- Whatever file is loaded, a run that starts has suffixes of this kind. -/
theorem loaded_suffixes_plain {platform : Platform} {tree : Files.Tree} {config : Option Text}
    {settings : Settings} (loaded : load platform tree config = .ok settings) :
    PlainSuffixes settings.output := by
  cases config with
  | none =>
      cases loaded
      exact default_suffixes_plain
  | some given =>
      obtain ⟨found, -, loaded⟩ := bind_ok loaded
      dsimp only at loaded
      split at loaded
      · cases loaded
      obtain ⟨text, -, loaded⟩ := bind_ok loaded
      obtain ⟨value, -, loaded⟩ := bind_ok loaded
      unfold ofValue at loaded
      split at loaded
      · exact entries_suffixes_plain loaded
      · exact entries_suffixes_plain loaded
      · cases loaded

end DtoForge.Settings
