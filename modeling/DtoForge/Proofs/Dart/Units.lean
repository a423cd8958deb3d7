import DtoForge.Proofs.Dart.Header
import DtoForge.Proofs.Naming.Fresh
import DtoForge.Proofs.Naming.Spelling
import DtoForge.Proofs.Schema.NameSet

/-!
The files of some records, taken together. Each record stands in one file, that of its host, and a
file imports just the other files that declare what its records refer to. The imports are read back
from the text of the file. Nothing here depends on where the records come from.
-/

namespace DtoForge.Dart

/-- What records have to be like so that their files are complete: distinct plain names, a shared
host for every private record, and a record for every name in a field. -/
structure Hosted (records : List Record) : Prop where
  namesDistinct : (records.map (·.name)).Nodup
  named : ∀ record ∈ records, Naming.Plain record.name
  hosted : ∀ record ∈ records, ∀ scope, record.scope = some scope →
    ∃ host ∈ records, host.name = scope ∧ host.scope = none
  met : ∀ record ∈ records, ∀ field ∈ record.fields, ∀ name,
    field.type.recordName? = some name → ∃ other ∈ records, other.name = name

/-- A record that goes by one of the declared names has a field that names a record. -/
def Refers (records : List Record) (declared : List Text) (name : Text) : Prop :=
  ∃ record ∈ records, record.name ∈ declared ∧
    ∃ field ∈ record.fields, field.type.recordName? = some name

/-- The units hold every record once, each under its host, and import just what they refer to. -/
structure CompleteUnits (classSuffix : Text) (records : List Record) (units : List OutputUnit) :
    Prop where
  complete : (units.flatMap (·.recordNames)).Perm (records.map (·.name))
  namesDistinct : (units.flatMap (·.recordNames)).Nodup
  ordered : units.map (·.hostName) = (shared records).map (·.name)
  placed : ∀ unit ∈ units, ∀ record ∈ records,
    record.name ∈ unit.recordNames ↔ record.scope.getD record.name = unit.hostName
  rendered : ∀ unit ∈ units, ∃ members, (∀ member ∈ members, member ∈ records) ∧
    members.map (·.name) = unit.recordNames ∧
      unit.source = unitSource unit.fileName classSuffix members (importsOf unit.source)
  filesDistinct : (units.map (·.fileName)).Nodup
  importsDistinct : ∀ unit ∈ units, (importsOf unit.source).Nodup
  importsExact : ∀ unit ∈ units, ∀ path, path ∈ importsOf unit.source ↔
    ∃ other ∈ units, other ≠ unit ∧ other.fileName = path ∧
      ∃ name ∈ other.recordNames, Refers records unit.recordNames name
  declared : ∀ unit ∈ units, ∀ name, Refers records unit.recordNames name →
    name ∈ unit.recordNames ∨
    ∃ other ∈ units, other.fileName ∈ importsOf unit.source ∧ name ∈ other.recordNames
  generated : ∀ unit ∈ units, ∀ path ∈ importsOf unit.source, ∃ other ∈ units, other.fileName = path
  foreign : ∀ unit ∈ units, unit.fileName ∉ importsOf unit.source

/-! ### File names -/

theorem file_names_keys (fileSuffix : Text) (stems names : List Text) :
    (fileNames fileSuffix stems names).map (·.1) = names := by
  induction names generalizing stems with
  | nil => rfl
  | cons name rest induction => exact congrArg (name :: ·) (induction _)

theorem file_names_choices (fileSuffix : Text) (stems names : List Text) :
    (fileNames fileSuffix stems names).map (·.2) =
      (Naming.choices (names.map fun name => (Naming.snakeCase name, none)) stems).map
        fun stem => withFileSuffix stem fileSuffix := by
  induction names generalizing stems with
  | nil => rfl
  | cons name rest induction => exact congrArg (_ :: ·) (induction _)

theorem file_names_stems (fileSuffix : Text) (stems names : List Text)
    (plain : ∀ name ∈ names, Naming.Plain name) :
    ∀ pair ∈ fileNames fileSuffix stems names,
      ∃ stem, Naming.IsFileStem stem.toList ∧ pair.2 = withFileSuffix stem fileSuffix := by
  induction names generalizing stems with
  | nil => exact List.forall_mem_nil _
  | cons name rest induction =>
      obtain ⟨first, others⟩ := List.forall_mem_cons.mp plain
      exact List.forall_mem_cons.mpr
        ⟨⟨_, Naming.uniquify_stem (Naming.snake_case_stem first) stems, rfl⟩, induction _ others⟩

theorem with_file_suffix_injective (fileSuffix : Text) :
    Function.Injective fun stem => withFileSuffix stem fileSuffix := by
  intro left right same
  exact (Text.append_left_inj fileSuffix).mp ((Text.append_left_inj ".dart").mp same)

theorem file_names_distinct (fileSuffix : Text) (stems names : List Text) :
    ((fileNames fileSuffix stems names).map (·.2)).Nodup := by
  rw [file_names_choices]
  exact (Naming.choices_distinct _ _).map (with_file_suffix_injective fileSuffix)

/-! ### The unit of a host -/

variable {records : List Record} {classSuffix fileSuffix : Text}

def hostTable (records : List Record) : Table Text :=
  Table.ofList (records.map fun record => (record.name, record.host))

def fileTable (records : List Record) (fileSuffix : Text) : Table Text :=
  Table.ofList (fileNames fileSuffix [] ((shared records).map (·.name)))

def fileOf (records : List Record) (fileSuffix name : Text) : Text :=
  ((fileTable records fileSuffix).get? name).getD (fileName name fileSuffix)

def membersOf (records : List Record) (host : Record) : List Record :=
  host :: inlinedIn records host.name

def namesIn (records : List Record) (host : Record) : List Text :=
  (membersOf records host).map (·.name)

def importsFor (records : List Record) (fileSuffix : Text) (host : Record) : List Text :=
  (importedHosts (hostTable records) (membersOf records host) host.name).map
    (fileOf records fileSuffix)

def unitFor (records : List Record) (classSuffix fileSuffix : Text) (host : Record) : OutputUnit :=
  ⟨fileOf records fileSuffix host.name, namesIn records host,
    unitSource (fileOf records fileSuffix host.name) classSuffix (membersOf records host)
      (importsFor records fileSuffix host)⟩

theorem output_units_eq (records : List Record) (classSuffix fileSuffix : Text) :
    outputUnits records classSuffix fileSuffix =
      (shared records).map (unitFor records classSuffix fileSuffix) :=
  rfl

theorem mem_shared_iff (record : Record) :
    record ∈ shared records ↔ record ∈ records ∧ record.scope = none := by
  rw [shared, List.mem_filter, Option.isNone_iff_eq_none]

theorem members_subset {host : Record} (held : host ∈ shared records) :
    ∀ member ∈ membersOf records host, member ∈ records := by
  refine List.forall_mem_cons.mpr ⟨((mem_shared_iff host).mp held).1, ?_⟩
  exact fun member inner => (List.mem_filter.mp inner).1

theorem Hosted.unique (hosted : Hosted records) {left right : Record} (leftHeld : left ∈ records)
    (rightHeld : right ∈ records) (same : left.name = right.name) : left = right :=
  List.inj_on_of_nodup_map hosted.namesDistinct leftHeld rightHeld same

/-- The scope of a record is never empty, so it is the host of the record. -/
theorem Hosted.host_eq (hosted : Hosted records) {record : Record} (held : record ∈ records) :
    record.host = record.scope.getD record.name := by
  unfold Record.host
  cases scope : record.scope with
  | none => rfl
  | some name =>
      obtain ⟨host, hostHeld, rfl, -⟩ := hosted.hosted record held name scope
      have named : host.name ≠ "" := by
        intro empty
        have plain := (hosted.named host hostHeld).1
        rw [empty] at plain
        exact plain rfl
      exact if_neg named

theorem Hosted.host_shared (hosted : Hosted records) {record : Record} (held : record ∈ records) :
    ∃ host ∈ shared records, host.name = record.host := by
  rw [hosted.host_eq held]
  cases scope : record.scope with
  | none => exact ⟨record, (mem_shared_iff record).mpr ⟨held, scope⟩, rfl⟩
  | some name =>
      obtain ⟨host, hostHeld, named, unscoped⟩ := hosted.hosted record held name scope
      exact ⟨host, (mem_shared_iff host).mpr ⟨hostHeld, unscoped⟩, named⟩

theorem Hosted.mem_members_iff (hosted : Hosted records) {host record : Record}
    (hostHeld : host ∈ shared records) (held : record ∈ records) :
    record ∈ membersOf records host ↔ record.host = host.name := by
  obtain ⟨hostStored, unscoped⟩ := (mem_shared_iff host).mp hostHeld
  rw [hosted.host_eq held, membersOf, List.mem_cons, inlinedIn, List.mem_filter]
  cases scope : record.scope with
  | none =>
      simp only [Option.getD_none, reduceCtorEq, beq_iff_eq, and_false, or_false]
      exact ⟨congrArg Record.name, hosted.unique held hostStored⟩
  | some name =>
      have differ : record ≠ host := by
        rintro rfl
        rw [unscoped] at scope
        cases scope
      simp [differ, held]

theorem Hosted.member_named_iff (hosted : Hosted records) {host record : Record}
    (hostHeld : host ∈ shared records) (held : record ∈ records) :
    record.name ∈ namesIn records host ↔ record.host = host.name := by
  rw [← hosted.mem_members_iff hostHeld held, namesIn, List.mem_map]
  constructor
  · rintro ⟨member, inner, same⟩
    rwa [← hosted.unique (members_subset hostHeld member inner) held same]
  · exact fun inner => ⟨record, inner, rfl⟩

theorem Hosted.host_of (hosted : Hosted records) {record : Record} (held : record ∈ records) :
    hostOf (hostTable records) record.name = record.host := by
  have distinct : (Table.keys (records.map fun record => (record.name, record.host))).Nodup := by
    rw [Table.keys, List.map_map]
    exact hosted.namesDistinct
  have bound : (record.name, record.host) ∈ hostTable records := by
    rw [hostTable, Table.of_list_of_distinct _ distinct]
    exact List.mem_map_of_mem held
  rw [hostTable, Table.of_list_of_distinct _ distinct] at bound
  rw [hostOf, hostTable, Table.of_list_of_distinct _ distinct,
    Table.get_of_mem _ _ _ distinct bound]
  rfl

theorem Hosted.shared_plain (hosted : Hosted records) :
    ∀ name ∈ (shared records).map (·.name), Naming.Plain name := by
  intro name member
  obtain ⟨host, held, rfl⟩ := List.mem_map.mp member
  exact hosted.named host ((mem_shared_iff host).mp held).1

theorem Hosted.file_of_mem (hosted : Hosted records) {host : Record}
    (held : host ∈ shared records) :
    (host.name, fileOf records fileSuffix host.name) ∈
      fileNames fileSuffix [] ((shared records).map (·.name)) := by
  let names := (shared records).map (·.name)
  have keys : Table.keys (fileNames fileSuffix [] names) = names := file_names_keys _ _ _
  have distinct : (Table.keys (fileNames fileSuffix [] names)).Nodup := by
    rw [keys]
    exact (List.filter_sublist.map _).nodup hosted.namesDistinct
  have named : host.name ∈ Table.keys (fileNames fileSuffix [] names) := by
    rw [keys]
    exact List.mem_map_of_mem held
  obtain ⟨⟨_, file⟩, bound, rfl⟩ := List.mem_map.mp named
  have found := Table.get_of_mem _ _ _ distinct bound
  rw [fileOf, fileTable, Table.of_list_of_distinct _ distinct, found]
  exact bound

theorem Hosted.file_injective (hosted : Hosted records) {left right : Record}
    (leftHeld : left ∈ shared records) (rightHeld : right ∈ shared records)
    (same : fileOf records fileSuffix left.name = fileOf records fileSuffix right.name) :
    left.name = right.name :=
  congrArg Prod.fst (List.inj_on_of_nodup_map
    (file_names_distinct fileSuffix [] _) (hosted.file_of_mem leftHeld)
    (hosted.file_of_mem rightHeld) same)

theorem Hosted.file_whole (hosted : Hosted records) (suffix : Naming.IsStem fileSuffix.toList)
    {host : Record} (held : host ∈ shared records) :
    CodePoint.char '\n' ∉ (fileOf records fileSuffix host.name).toList := by
  have apart (text : List CodePoint) (stem : Naming.IsStem text) : CodePoint.char '\n' ∉ text := by
    intro broken
    exact absurd (stem _ broken) (by decide)
  obtain ⟨stem, spelled, shape⟩ :=
    file_names_stems fileSuffix [] _ hosted.shared_plain _ (hosted.file_of_mem held)
  dsimp only at shape
  rw [shape]
  simp [withFileSuffix, apart _ spelled.stem, apart _ suffix]

/-! ### References -/

theorem mem_imported_iff (hosts : Table Text) (members : List Record) (own target : Text) :
    target ∈ importedHosts hosts members own ↔ target ≠ own ∧ ∃ record ∈ members,
      ∃ field ∈ record.fields, ∃ name, field.type.recordName? = some name ∧
        hostOf hosts name = target := by
  simp only [importedHosts, mem_name_set, List.mem_filter, decide_eq_true_eq, List.mem_map,
    List.mem_flatMap, List.mem_filterMap]
  constructor
  · rintro ⟨⟨name, ⟨record, held, field, member, refers⟩, same⟩, foreign⟩
    exact ⟨foreign, record, held, field, member, name, refers, same⟩
  · rintro ⟨foreign, record, held, field, member, name, refers, same⟩
    exact ⟨⟨name, ⟨record, held, field, member, refers⟩, same⟩, foreign⟩

theorem Hosted.refers_iff (hosted : Hosted records) {host : Record}
    (hostHeld : host ∈ shared records)
    (name : Text) :
    Refers records (namesIn records host) name ↔
      ∃ record ∈ membersOf records host, ∃ field ∈ record.fields,
        field.type.recordName? = some name := by
  constructor
  · rintro ⟨record, held, listed, refers⟩
    have member := (hosted.member_named_iff hostHeld held).mp listed
    exact ⟨record, (hosted.mem_members_iff hostHeld held).mpr member, refers⟩
  · rintro ⟨record, member, refers⟩
    exact ⟨record, members_subset hostHeld record member, List.mem_map_of_mem member, refers⟩

theorem Hosted.referred_record (hosted : Hosted records) {declared : List Text} {name : Text}
    (refers : Refers records declared name) :
    ∃ record ∈ records, record.name = name ∧ ∃ host ∈ shared records, host.name = record.host ∧
      name ∈ namesIn records host := by
  obtain ⟨owner, held, -, field, member, named⟩ := refers
  obtain ⟨record, stored, rfl⟩ := hosted.met owner held field member name named
  obtain ⟨host, hostHeld, same⟩ := hosted.host_shared stored
  exact ⟨record, stored, rfl, host, hostHeld, same,
    (hosted.member_named_iff hostHeld stored).mpr same.symm⟩

theorem Hosted.mem_imported_iff (hosted : Hosted records) {host : Record}
    (hostHeld : host ∈ shared records) (target : Text) :
    target ∈ importedHosts (hostTable records) (membersOf records host) host.name ↔
      ∃ other ∈ shared records, other.name = target ∧ other.name ≠ host.name ∧
        ∃ name ∈ namesIn records other,
          Refers records (namesIn records host) name := by
  rw [Dart.mem_imported_iff]
  constructor
  · rintro ⟨foreign, owner, member, field, fieldHeld, name, named, rfl⟩
    have refers : Refers records (namesIn records host) name :=
      (hosted.refers_iff hostHeld name).mpr ⟨owner, member, field, fieldHeld, named⟩
    obtain ⟨record, stored, rfl, other, otherHeld, same, listed⟩ := hosted.referred_record refers
    rw [hosted.host_of stored] at foreign ⊢
    exact ⟨other, otherHeld, same, same ▸ foreign, record.name, listed, refers⟩
  · rintro ⟨other, otherHeld, rfl, foreign, name, listed, refers⟩
    obtain ⟨owner, member, field, fieldHeld, named⟩ := (hosted.refers_iff hostHeld name).mp refers
    obtain ⟨record, stored, rfl, -⟩ := hosted.referred_record refers
    refine ⟨foreign, owner, member, field, fieldHeld, record.name, named, ?_⟩
    rw [hosted.host_of stored]
    exact (hosted.member_named_iff otherHeld stored).mp listed

theorem Hosted.mem_imports_iff (hosted : Hosted records) {host : Record}
    (hostHeld : host ∈ shared records) (path : Text) :
    path ∈ importsFor records fileSuffix host ↔
      ∃ other ∈ shared records, fileOf records fileSuffix other.name = path ∧
        other.name ≠ host.name ∧ ∃ name ∈ namesIn records other,
          Refers records (namesIn records host) name := by
  rw [importsFor, List.mem_map]
  constructor
  · rintro ⟨target, imported, rfl⟩
    obtain ⟨other, otherHeld, rfl, rest⟩ := (hosted.mem_imported_iff hostHeld target).mp imported
    exact ⟨other, otherHeld, rfl, rest⟩
  · rintro ⟨other, otherHeld, rfl, rest⟩
    exact ⟨other.name, (hosted.mem_imported_iff hostHeld _).mpr ⟨other, otherHeld, rfl, rest⟩, rfl⟩

theorem Hosted.imports_distinct (hosted : Hosted records) {host : Record}
    (hostHeld : host ∈ shared records) : (importsFor records fileSuffix host).Nodup := by
  have imported := hosted.mem_imported_iff hostHeld
  apply List.Nodup.map_on
  · intro left leftHeld right rightHeld same
    obtain ⟨leftHost, leftShared, rfl, -⟩ := (imported left).mp leftHeld
    obtain ⟨rightHost, rightShared, rfl, -⟩ := (imported right).mp rightHeld
    exact hosted.file_injective leftShared rightShared same
  · exact (name_set_ascending _).imp fun less => ne_of_lt less

/-! ### All units -/

theorem Hosted.members_perm (hosted : Hosted records) :
    ((shared records).flatMap (membersOf records)).Perm records := by
  have distinct : records.Nodup := hosted.namesDistinct.of_map
  have sharedDistinct : (shared records).Nodup := distinct.filter _
  have members (host : Record) (held : host ∈ shared records) : (membersOf records host).Nodup := by
    refine List.nodup_cons.mpr ⟨?_, distinct.filter _⟩
    intro inner
    have within := (List.mem_filter.mp inner).2
    rw [((mem_shared_iff host).mp held).2] at within
    cases within
  apply (List.perm_ext_iff_of_nodup ?_ distinct).mpr
  · intro record
    rw [List.mem_flatMap]
    constructor
    · rintro ⟨host, held, member⟩
      exact members_subset held record member
    · intro stored
      obtain ⟨host, held, same⟩ := hosted.host_shared stored
      exact ⟨host, held, (hosted.mem_members_iff held stored).mpr same.symm⟩
  · refine List.nodup_flatMap.mpr ⟨members, sharedDistinct.imp_of_mem ?_⟩
    intro left right leftHeld rightHeld differ record inLeft inRight
    have stored := members_subset leftHeld record inLeft
    have same := ((hosted.mem_members_iff leftHeld stored).mp inLeft).symm.trans
      ((hosted.mem_members_iff rightHeld stored).mp inRight)
    exact differ (hosted.unique ((mem_shared_iff left).mp leftHeld).1
      ((mem_shared_iff right).mp rightHeld).1 same)

theorem Hosted.imports_read (hosted : Hosted records) (suffix : Naming.IsStem fileSuffix.toList)
    {host : Record} (hostHeld : host ∈ shared records) :
    importsOf (unitFor records classSuffix fileSuffix host).source =
      importsFor records fileSuffix host := by
  apply imports_of_unit_source
  intro path imported
  obtain ⟨other, otherHeld, rfl, -⟩ :=
    (hosted.mem_imports_iff hostHeld path).mp imported
  exact hosted.file_whole suffix otherHeld

theorem Hosted.files_distinct (hosted : Hosted records) (classSuffix : Text) :
    ((outputUnits records classSuffix fileSuffix).map (·.fileName)).Nodup := by
  rw [output_units_eq, List.map_map]
  apply List.Nodup.map_on
  · intro left leftHeld right rightHeld same
    exact hosted.unique ((mem_shared_iff left).mp leftHeld).1
      ((mem_shared_iff right).mp rightHeld).1
      (hosted.file_injective leftHeld rightHeld same)
  · exact hosted.namesDistinct.of_map.filter _

/-- A unit imports the files of the other units that it refers to, and nothing else. -/
theorem Hosted.imports_exact (hosted : Hosted records) (suffix : Naming.IsStem fileSuffix.toList)
    {unit : OutputUnit} (listed : unit ∈ outputUnits records classSuffix fileSuffix) (path : Text) :
    path ∈ importsOf unit.source ↔ ∃ other ∈ outputUnits records classSuffix fileSuffix,
      other ≠ unit ∧ other.fileName = path ∧
        ∃ name ∈ other.recordNames, Refers records unit.recordNames name := by
  rw [output_units_eq] at listed ⊢
  obtain ⟨host, hostHeld, rfl⟩ := List.mem_map.mp listed
  rw [hosted.imports_read suffix hostHeld, hosted.mem_imports_iff hostHeld]
  constructor
  · rintro ⟨other, otherHeld, rfl, differ, refers⟩
    refine ⟨unitFor records classSuffix fileSuffix other, List.mem_map_of_mem otherHeld, ?_, rfl,
      refers⟩
    exact fun same => differ (congrArg OutputUnit.hostName same)
  · rintro ⟨_, otherListed, differ, rfl, refers⟩
    obtain ⟨other, otherHeld, rfl⟩ := List.mem_map.mp otherListed
    refine ⟨other, otherHeld, rfl, ?_, refers⟩
    intro same
    have equal := hosted.unique ((mem_shared_iff other).mp otherHeld).1
      ((mem_shared_iff host).mp hostHeld).1 same
    exact differ (congrArg _ equal)

theorem Hosted.complete_units (hosted : Hosted records) (classSuffix : Text)
    (suffix : Naming.IsStem fileSuffix.toList) :
    CompleteUnits classSuffix records (outputUnits records classSuffix fileSuffix) := by
  have hostOfUnit {unit : OutputUnit} (listed : unit ∈ outputUnits records classSuffix fileSuffix) :
      ∃ host ∈ shared records, unitFor records classSuffix fileSuffix host = unit :=
    List.mem_map.mp listed
  have all : (outputUnits records classSuffix fileSuffix).flatMap (·.recordNames) =
      ((shared records).flatMap (membersOf records)).map (·.name) := by
    rw [output_units_eq, List.flatMap_map, List.map_flatMap]
    rfl
  have names := hosted.members_perm.map Record.name
  rw [← all] at names
  constructor
  case complete => exact names
  case namesDistinct => exact names.nodup_iff.mpr hosted.namesDistinct
  case ordered =>
    rw [output_units_eq, List.map_map]
    rfl
  case placed =>
    intro unit listed record held
    obtain ⟨host, hostHeld, rfl⟩ := hostOfUnit listed
    rw [← hosted.host_eq held]
    exact hosted.member_named_iff hostHeld held
  case rendered =>
    intro unit listed
    obtain ⟨host, hostHeld, rfl⟩ := hostOfUnit listed
    refine ⟨membersOf records host, members_subset hostHeld, rfl, ?_⟩
    rw [hosted.imports_read suffix hostHeld]
    rfl
  case filesDistinct => exact hosted.files_distinct classSuffix
  case importsDistinct =>
    intro unit listed
    obtain ⟨host, hostHeld, rfl⟩ := hostOfUnit listed
    rw [hosted.imports_read suffix hostHeld]
    exact hosted.imports_distinct hostHeld
  case importsExact => exact fun unit listed => hosted.imports_exact suffix listed
  case declared =>
    intro unit listed name refers
    obtain ⟨-, -, -, host, hostHeld, -, inHost⟩ := hosted.referred_record refers
    by_cases same : unitFor records classSuffix fileSuffix host = unit
    · exact Or.inl (same ▸ inHost)
    · have other : unitFor records classSuffix fileSuffix host ∈
          outputUnits records classSuffix fileSuffix := List.mem_map_of_mem hostHeld
      exact Or.inr ⟨_, other, (hosted.imports_exact suffix listed _).mpr
        ⟨_, other, same, rfl, name, inHost, refers⟩, inHost⟩
  case generated =>
    intro unit listed path imported
    obtain ⟨other, otherListed, -, named, -⟩ := (hosted.imports_exact suffix listed path).mp
      imported
    exact ⟨other, otherListed, named⟩
  case foreign =>
    intro unit listed imported
    obtain ⟨other, otherListed, differ, named, -⟩ :=
      (hosted.imports_exact suffix listed _).mp imported
    exact differ (List.inj_on_of_nodup_map (hosted.files_distinct classSuffix) otherListed listed
      named)

end DtoForge.Dart
