import FeatureResolution.CheckedFile
import FeatureResolution.Proofs.Schema

/-!
# Documents that load

A file loads exactly when there is a document in it that counts as true and keeps the schema, and
what is loaded is that document (`FileTree.load_eq_ok_iff`). So a manifest loads wherever it stands;
those with nothing but names of flags (`FileTree.declaring`) do when the schema accepts the names.
-/

namespace FeatureResolution.FileTree

variable {tree : FileTree} {schema : Schema} {path : String} {document : Document}

/-! ## Loading -/

theorem load_eq_ok_iff : tree.load schema path = .ok document ↔
    tree.find? (.ofText path) = .ok (some (.file (.ok document))) ∧ document.truthy = true ∧
      schema.Keeps document := by
  constructor
  · intro loaded
    obtain ⟨found, isFound, rest⟩ := bind_eq_ok_iff.1 loaded
    split at rest <;> try contradiction
    next held =>
    split at rest
    · cases rest
    · next counts =>
      obtain ⟨report, checked, returned⟩ := bind_eq_ok_iff.1 rest
      cases report with
      | none =>
        cases returned
        exact ⟨isFound, by simpa using counts, Schema.check_eq_ok_none_iff.1 checked⟩
      | some violation => cases returned
  · rintro ⟨isFound, counts, keeps⟩
    rw [load, isFound, ok_bind]
    simp [counts, Schema.check_eq_ok_none_iff.2 keeps]

theorem loadManifest_eq_ok_iff : tree.loadManifest path = .ok document ↔
    tree.find? (.ofText path) = .ok (some (.file (.ok document))) ∧ document.truthy = true ∧
      Schema.manifest.Keeps document :=
  load_eq_ok_iff

theorem loadProfile_eq_ok_iff : tree.loadProfile path = .ok document ↔
    tree.find? (.ofText path) = .ok (some (.file (.ok document))) ∧ document.truthy = true ∧
      Schema.profile.Keeps document :=
  load_eq_ok_iff

theorem loadRegistry_of_missing {ν : Type} [Label ν]
    (missing : tree.find? (.ofText path) = .ok none) :
    (tree.loadRegistry path : Except Error (Registry ν)) =
      .error (.badManifest path "file not found") := by
  rw [loadRegistry, loadManifest, load, missing]
  rfl

/-! ## Manifests with given names -/

/-- A manifest that declares flags by these names. -/
def declaring (names : List String) : Document :=
  .map [(.text "artifact", .map [(.text "name", .text "core"), (.text "version", .text "1.0.0")]),
    (.text "flags", .list (names.map fun name => .map [(.text "name", .text name)]))]

theorem keeps_declaring {names : List String} (nonempty : names ≠ [])
    (accepted : ∀ name ∈ names,
      Schema.flagNamePattern.accepts name = true ∧ name ≠ "default") :
    Schema.manifest.Keeps (declaring names) := by
  have owner : Schema.owner.Keeps
      (.map [(.text "name", .text "core"), (.text "version", .text "1.0.0")]) := by
    have version : Schema.versionPattern.accepts "1.0.0" = true := by decide +kernel
    rw [Schema.owner, Schema.keeps_record_iff]
    refine ⟨_, rfl, by simp [Document.lookup], by simp, ?_⟩
    simp [Document.lookup, Schema.keeps_rules_iff, Rule.Holds, Kind.admits, Document.opened,
      Scalar.asText?, version]
  have flags : ∀ name ∈ names, Schema.flag.Keeps (.map [(.text "name", .text name)]) := by
    intro name listed
    obtain ⟨isName, notReserved⟩ := accepted name listed
    rw [Schema.flag, Schema.keeps_record_iff]
    refine ⟨_, rfl, by simp [Document.lookup], by simp, ?_⟩
    simp [Document.lookup, Schema.flagName, Schema.keeps_rules_iff, Rule.Holds, Kind.admits,
      Document.opened, Scalar.asText?, isName, notReserved]
  rw [Schema.manifest, Schema.keeps_record_iff]
  refine ⟨_, rfl, by simp [Document.lookup], by simp, ?_⟩
  have some : 1 ≤ names.length := List.length_pos_iff.2 nonempty
  simpa [Document.lookup, owner, Schema.keeps_rules_iff, Rule.Holds, Kind.admits, Document.opened,
    some] using flags

end FeatureResolution.FileTree
