import FeatureResolution.Proofs.FeatureText
import FeatureResolution.Proofs.ManifestSafety
import FeatureResolution.Proofs.Profile

/-!
# Declared names in feature lists

The schema of manifests accepts as the name of a flag what its pattern denotes, with or without a
line break at the end: letters, digits, dashes and underscores (`mem_flagNamePattern_iff`). The
names that a loaded manifest declares are such texts (`accepts_of_declares`), so each of them is one
word in a feature list, and the word is the name without its line break (`splitFeatures_declared`).

Declared names joined with commas therefore ask for these words. They ask for the declared flags
exactly when no name ends in a line break; there are manifests with such names
(`splitFeatures_lineBreak`).
-/

namespace FeatureResolution

open Pattern

/-! ## Names that the schema accepts -/

namespace Schema

variable {chars : List Char} {document : Document}

theorem covers_nameStart (c : Char) :
    [ClassItem.range 'A' 'Z', .range 'a' 'z', .range '0' '9'].any (·.covers c) = c.isAlphanum := by
  rw [Bool.eq_iff_iff]
  delta Char.isAlphanum Char.isAlpha Char.isUpper Char.isLower Char.isDigit
  simp [ClassItem.covers, Char.le_def]
  tauto

theorem covers_nameRest (c : Char) :
    [ClassItem.range 'A' 'Z', .range 'a' 'z', .range '0' '9', .single '_', .single '-'].any
      (·.covers c) = (c.isAlphanum || c == '_' || c == '-') := by
  rw [Bool.eq_iff_iff]
  delta Char.isAlphanum Char.isAlpha Char.isUpper Char.isLower Char.isDigit
  simp [ClassItem.covers, Char.le_def]
  tauto

/-- The pattern of names denotes the texts of letters, digits, dashes and underscores that begin
with a letter or digit. -/
theorem mem_flagNamePattern_iff :
    chars ∈ flagNamePattern.language ↔ ∃ first rest, chars = first :: rest ∧
      first.isAlphanum = true ∧ ∀ c ∈ rest, (c.isAlphanum || c == '_' || c == '-') = true := by
  rw [flagNamePattern, mem_next_iff]
  simp only [mem_oneOf_iff, mem_repeated_oneOf_iff, covers_nameStart, covers_nameRest]
  constructor
  · rintro ⟨_, ⟨first, starts, rfl⟩, rest, allowed, rfl⟩
    exact ⟨first, rest, rfl, starts, allowed⟩
  · rintro ⟨first, rest, rfl, starts, allowed⟩
    exact ⟨[first], ⟨first, starts, rfl⟩, rest, allowed, rfl⟩

theorem plain_of_mem_flagNamePattern (isName : chars ∈ flagNamePattern.language) :
    PlainFeature (String.ofList chars) := by
  obtain ⟨first, rest, rfl, starts, allowed⟩ := mem_flagNamePattern_iff.1 isName
  have plain {c : Char} (allowed : (c.isAlphanum || c == '_' || c == '-') = true) :
      c ≠ ',' ∧ Text.isBlank c = false := by
    simp only [Bool.or_eq_true, beq_iff_eq] at allowed
    rcases allowed with (alphanumeric | rfl) | rfl
    · refine ⟨fun comma => ?_, Text.isBlank_of_isAlphanum alphanumeric⟩
      subst comma
      cases alphanumeric
    · decide
    · decide
  refine ⟨by simp, ?_⟩
  rw [String.toList_ofList, List.forall_mem_cons]
  exact ⟨plain (by simp [starts]), fun c present => plain (allowed c present)⟩

/-! ## Fields of what keeps a schema -/

/-- A field of what keeps the schema of a record keeps its own schema. -/
theorem Keeps.of_field? {required : List String} {schemas : List (String × Schema)} {key : String}
    {schema : Schema} {value : Document} (keeps : (record required schemas).Keeps document)
    (listed : (key, schema) ∈ schemas) (found : document.field? key = .ok (some value)) :
    schema.Keeps value := by
  obtain ⟨fields, opened, _, _, each⟩ := keeps_record_iff.1 keeps
  simp only [Document.field?, opened, Except.ok.injEq] at found
  exact each (key, schema) listed value found

/-- The elements of what keeps the schema of a list keep the schema of its items. -/
theorem Keeps.of_elements {rules : List Rule} {item : Schema} {elements : List Document}
    (keeps : (Schema.rules (.kind .array :: rules)).Keeps document) (listed : .items item ∈ rules)
    (read : document.elements = .ok elements) : ∀ element ∈ elements, item.Keeps element := by
  have holds := keeps_rules_iff.1 keeps
  obtain ⟨items, opened⟩ := admits_array_iff.1 (holds _ List.mem_cons_self)
  have each := holds _ (List.mem_cons_of_mem _ listed)
  simp only [Document.elements, opened, Except.ok.injEq] at read
  simp only [Rule.Holds, opened] at each
  exact read ▸ each

/-- A text that keeps the schema of names has the form of one. -/
theorem accepts_of_keeps_flagName {name : String} (keeps : flagName.Keeps document)
    (read : Label.ofDocument document = .ok name) : flagNamePattern.accepts name = true := by
  have form := keeps_rules_iff.1 keeps (.pattern flagNamePattern) (by simp)
  unfold Label.ofDocument Label.ofDocument? at read
  cases document with
  | scalar value =>
    cases value with
    | text _ | brokenText _ =>
      cases read
      exact form
    | _ => cases read
  | _ => cases read

end Schema

/-! ## Declared names -/

namespace Registry

/-- A table declares a flag by a name. -/
def Declares (table : Document) (name : String) : Prop :=
  ∃ entries, readElements "flags" table = .ok entries ∧ ∃ entry ∈ entries,
    ∃ value, entry.field "name" = .ok value ∧ Label.ofDocument value = .ok name

theorem accepts_of_declares {table : Document} {name : String}
    (keeps : Schema.manifest.Keeps table) (declares : Declares table name) :
    Schema.flagNamePattern.accepts name = true := by
  obtain ⟨entries, read, entry, listed, value, named, label⟩ := declares
  obtain ⟨found, field, rest⟩ := bind_eq_ok_iff.1 read
  cases found with
  | none =>
    cases rest
    cases listed
  | some flags =>
    have flagsKeep : (Schema.rules [.kind .array, .minItems 1, .items Schema.flag]).Keeps flags :=
      keeps.of_field? (by simp) field
    have entryKeeps : Schema.flag.Keeps entry :=
      flagsKeep.of_elements (by simp) rest entry listed
    have valueKeeps : Schema.flagName.Keeps value :=
      entryKeeps.of_field? (by simp) (Document.field?_of_field named)
    exact Schema.accepts_of_keeps_flagName valueKeeps label

end Registry

/-! ## Words -/

/-- A text is left as it is when it does not end in a line break. -/
theorem withoutLineBreak_eq_self_iff {chars : List Char} :
    withoutLineBreak chars = chars ↔ chars.getLast? ≠ some '\n' := by
  unfold withoutLineBreak
  split
  · next ended =>
    refine iff_of_false (fun same => ?_) fun other => other ended
    have nonempty : chars ≠ [] := by
      rintro rfl
      cases ended
    have shorter := congrArg List.length same
    have positive := List.length_pos_iff.2 nonempty
    rw [List.length_dropLast] at shorter
    omega
  · next other => exact iff_of_true rfl other

/-- A name that the schema accepts is one word: the name without a line break at its end. -/
theorem splitFeatures_of_accepts {name : String}
    (accepted : Schema.flagNamePattern.accepts name = true) :
    splitFeatures name = [String.ofList (withoutLineBreak name.toList)] := by
  by_cases ended : name.toList.getLast? = some '\n'
  · have whole : name.toList = withoutLineBreak name.toList ++ ['\n'] := by
      rw [withoutLineBreak, if_pos ended, List.dropLast_append_getLast? _ ended]
    -- The text itself has a blank at its end, so it is accepted only without it.
    have isName : withoutLineBreak name.toList ∈ Schema.flagNamePattern.language := by
      refine (accepts_iff.1 accepted).resolve_left fun isName => ?_
      have plain := (Schema.plain_of_mem_flagNamePattern isName).2
      rw [String.toList_ofList] at plain
      exact absurd (plain '\n' (List.mem_of_getLast? ended)).2 (by decide)
    have cut := (Schema.plain_of_mem_flagNamePattern isName).splitFeatures_blank
      (c := '\n') (by decide)
    rwa [String.toList_ofList, ← whole, String.ofList_toList] at cut
  · rw [accepts_iff, withoutLineBreak_eq_self_iff.2 ended, or_self] at accepted
    have cut := (Schema.plain_of_mem_flagNamePattern accepted).splitFeatures_eq
    rw [String.ofList_toList] at cut
    rw [withoutLineBreak_eq_self_iff.2 ended, String.ofList_toList, cut]

namespace FileTree

variable {tree : FileTree} {path : String} {document : Document}

/-! ## Manifests with given names -/

theorem declares_declaring {names : List String} {name : String} (listed : name ∈ names) :
    Registry.Declares (declaring names) name :=
  ⟨_, rfl, _, List.mem_map_of_mem listed, _, rfl, rfl⟩

/-- Every list of names that the schema accepts is declared by a manifest that loads. -/
theorem loadManifest_declaring {names : List String} (nonempty : names ≠ [])
    (accepted : ∀ name ∈ names,
      Schema.flagNamePattern.accepts name = true ∧ name ≠ "default") :
    (holding (declaring names)).loadManifest "m.yaml" = .ok (declaring names) :=
  loadManifest_eq_ok_iff.2
    ⟨find?_eq_some (find_holding _), rfl, keeps_declaring nonempty accepted⟩

/-! ## Joined names -/

/-- Names that a loaded manifest declares, joined with commas, are cut into these names without
their line breaks; they are the names themselves exactly when none ends in a line break. -/
theorem splitFeatures_declared (loaded : tree.loadManifest path = .ok document)
    {names : List String} (declared : ∀ name ∈ names, Registry.Declares document name) :
    splitFeatures (String.intercalate "," names) =
        names.map (fun name => String.ofList (withoutLineBreak name.toList)) ∧
      (splitFeatures (String.intercalate "," names) = names ↔
        ∀ name ∈ names, name.toList.getLast? ≠ some '\n') := by
  have keeps := (loadManifest_eq_ok_iff.1 loaded).2.2
  have cut : splitFeatures (String.intercalate "," names) =
      names.map fun name => String.ofList (withoutLineBreak name.toList) :=
    splitFeatures_intercalate_of_word fun name present =>
      splitFeatures_of_accepts (Registry.accepts_of_declares keeps (declared name present))
  refine ⟨cut, ?_⟩
  calc splitFeatures (String.intercalate "," names) = names
      ↔ names.map (fun name => String.ofList (withoutLineBreak name.toList)) = names.map id := by
        rw [cut, List.map_id]
    _ ↔ ∀ name ∈ names, String.ofList (withoutLineBreak name.toList) = name := List.map_inj_left
    _ ↔ ∀ name ∈ names, name.toList.getLast? ≠ some '\n' := by
        refine forall₂_congr fun name _ => ?_
        rw [← String.toList_inj, String.toList_ofList, withoutLineBreak_eq_self_iff]

/-- The hypotheses hold of a manifest of two flags. -/
theorem splitFeatures_declared_twoFlags :
    (holding (declaring ["std", "mesalock_sgx"])).loadManifest "m.yaml" =
        .ok (declaring ["std", "mesalock_sgx"]) ∧
      splitFeatures (String.intercalate "," ["mesalock_sgx", "std"]) = ["mesalock_sgx", "std"] := by
  have loaded : (holding (declaring ["std", "mesalock_sgx"])).loadManifest "m.yaml" =
      .ok (declaring ["std", "mesalock_sgx"]) :=
    loadManifest_declaring (by simp) (by decide +kernel)
  refine ⟨loaded, (splitFeatures_declared loaded fun name present => ?_).2.2 (by decide)⟩
  refine declares_declaring ?_
  revert name
  decide

/-- A manifest loads that declares a flag whose name ends in a line break, and the name asks for
another flag. -/
theorem splitFeatures_lineBreak :
    (holding (declaring ["std\n"])).loadManifest "m.yaml" = .ok (declaring ["std\n"]) ∧
      Registry.Declares (declaring ["std\n"]) "std\n" ∧
      splitFeatures (String.intercalate "," ["std\n"]) = ["std"] ∧ ["std"] ≠ ["std\n"] := by
  refine ⟨loadManifest_declaring (by simp) (by decide +kernel), declares_declaring (by simp), ?_,
    by decide⟩
  decide +kernel

end FileTree

end FeatureResolution
