import DtoForge.Dart.Class
import DtoForge.Schema.Basic

/-!
Output units: one Dart file for each shared record. The private records of a shared record stand
in its file, and records with another host are imported from there. Record names with the same
file stem get numbered stems.
-/

namespace DtoForge.Dart

/-- One generated file. The first record is the one that the file belongs to. -/
structure OutputUnit where
  fileName : Text
  recordNames : List Text
  source : Text
  deriving Repr, DecidableEq

def OutputUnit.hostName (unit : OutputUnit) : Text := unit.recordNames.headD ""

def withFileSuffix (stem fileSuffix : Text) : Text := stem ++ fileSuffix ++ ".dart"

def fileName (recordName : Text) (fileSuffix : Text) : Text :=
  withFileSuffix (Naming.snakeCase recordName) fileSuffix

/-- File names for shared records, in order; a stem that was given out before is numbered. -/
def fileNames (fileSuffix : Text) : List Text → List Text → List (Text × Text)
  | _, [] => []
  | stems, name :: rest =>
    let stem := Naming.uniquify (Naming.snakeCase name) stems
    (name, withFileSuffix stem fileSuffix) :: fileNames fileSuffix (stem :: stems) rest

def shared (records : List Record) : List Record := records.filter (·.scope.isNone)

def inlinedIn (records : List Record) (host : Text) : List Record :=
  records.filter (·.scope == some host)

/-- The host of a record name; a name without record is its own host. -/
def hostOf (hosts : Table Text) (name : Text) : Text := (hosts.get? name).getD name

/-- The hosts of the records that some records refer to, other than one, ascending. -/
def importedHosts (hosts : Table Text) (members : List Record) (own : Text) : List Text :=
  let referenced := members.flatMap fun record => record.fields.filterMap (·.type.recordName?)
  nameSet ((referenced.map (hostOf hosts)).filter (· ≠ own))

def dropDartSuffix (name : Text) : Text :=
  let points := name.toList
  let suffix := Text.toList ".dart"
  if suffix.isSuffixOf points then ⟨points.take (points.length - suffix.length)⟩ else name

def annotationImport : Text := "import 'package:json_annotation/json_annotation.dart';"

def unitSource (fileName classSuffix : Text) (members : List Record) (imports : List Text) : Text :=
  let closing : List Text := ["", "part '" ++ dropDartSuffix fileName ++ ".g.dart';"]
  let header := annotationImport :: imports.map (fun path => "import '" ++ path ++ "';") ++ closing
  Text.intercalate "\n" header ++ "\n\n" ++
    Text.intercalate "\n" (members.map (classText classSuffix))

def unitOf (records : List Record) (hosts names : Table Text) (classSuffix fileSuffix : Text)
    (record : Record) : OutputUnit :=
  let members := record :: inlinedIn records record.name
  let file := (names.get? record.name).getD (fileName record.name fileSuffix)
  let imports := (importedHosts hosts members record.name).map fun host =>
    (names.get? host).getD (fileName host fileSuffix)
  ⟨file, members.map (·.name), unitSource file classSuffix members imports⟩

def outputUnits (records : List Record) (classSuffix fileSuffix : Text) : List OutputUnit :=
  let hosts := Table.ofList (records.map fun record => (record.name, record.host))
  let names := Table.ofList (fileNames fileSuffix [] ((shared records).map (·.name)))
  (shared records).map (unitOf records hosts names classSuffix fileSuffix)

end DtoForge.Dart
