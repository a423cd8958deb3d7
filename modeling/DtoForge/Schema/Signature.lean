import DtoForge.Digest.Sha256
import DtoForge.Schema.Basic
import DtoForge.Schema.Canonical

/-!
Signatures of schemas. The encoding of an object lists its properties by name, each with the
signature of its schema, and its required names as a set, so the order of declaration does not
matter. The signature is the digest of the encoding; that different encodings have different
digests is not shown here.
-/

namespace DtoForge.Schema

def insertByName {α : Type} (entry : Text × α) : List (Text × α) → List (Text × α)
  | [] => [entry]
  | other :: rest =>
    if other.1 < entry.1 then other :: insertByName entry rest else entry :: other :: rest

/-- Entries in ascending order of their names; entries of one name keep their order. -/
def sortByName {α : Type} (entries : List (Text × α)) : List (Text × α) :=
  entries.foldr insertByName []

def digestOf (encoding : Canonical) : Text :=
  Digest.sha256Hex ((Canonical.render encoding).map fun c => UInt8.ofNat c.toNat)

mutual

def encoding : Schema → Canonical
  | .object properties required =>
    .list
      [.text "object",
        .list ((sortByName (signatures properties)).map fun (name, signature) =>
          .list [.text name, .text signature]),
        .list ((nameSet required).map .text)]
  | .array items => .list [.text "array", .text (digestOf (encoding items))]
  | .primitive kind format => .list [.text "primitive", .text kind.name, .ofText? format]
  | .reference pointer => .list [.text "reference", .text pointer]
  | .unknown tag => .list [.text "unknown", .ofText? tag]

def signatures : List (Text × Schema) → List (Text × Text)
  | [] => []
  | (name, schema) :: rest => (name, digestOf (encoding schema)) :: signatures rest

end

def signature (schema : Schema) : Text := digestOf (encoding schema)

theorem insert_by_name_perm {α : Type} (entry : Text × α) (entries : List (Text × α)) :
    (insertByName entry entries).Perm (entry :: entries) := by
  induction entries with
  | nil => exact List.Perm.refl _
  | cons other rest induction =>
      unfold insertByName
      split
      · exact (induction.cons other).trans (List.Perm.swap entry other rest)
      · exact List.Perm.refl _

theorem sort_by_name_perm {α : Type} (entries : List (Text × α)) :
    (sortByName entries).Perm entries := by
  induction entries with
  | nil => exact List.Perm.refl _
  | cons entry rest induction =>
      exact (insert_by_name_perm entry (sortByName rest)).trans (induction.cons entry)

end DtoForge.Schema
