import FeatureResolution.Profile
import FeatureResolution.Proofs.CheckedFile

/-!
# Wishes stated in a profile

A wish says what a build is to be made of: the features, the declared versions, possibly a mode, and
whether the default set is left out. What it leaves open is filled in from the settings
(`Wish.modeIn`, `Wish.defaultsIn`).

A profile that states a wish (`Wish.StatedIn`) keeps the schema of profiles
(`StatedIn.keeps_profile`), so it can be loaded, and it is read to the request that the wish amounts
to under the settings (`StatedIn.ofProfile_eq`).
-/

namespace FeatureResolution

/-- What a build is to be made of. -/
structure Wish where
  features : List String
  artifacts : Artifacts String
  mode : Option BuildMode
  withoutDefaults : Bool
deriving DecidableEq, Repr

namespace Wish

/-- The fields of a profile with a title that states a wish. Features and artifacts may be left out
when there are none, and the default set need not be mentioned to have it; the mode is left out when
none is wished for. -/
structure StatedIn (wish : Wish) (title : String) (fields : List (Scalar × Document)) : Prop where
  known : ∀ field ∈ fields, ∃ name ∈
    ["name", "description", "features", "default_features", "mode", "artifacts"],
    field.1.same (.text name) = true
  title : Document.lookup (.text "name") fields = some (.text title)
  description : ∀ value, Document.lookup (.text "description") fields = some value →
    ∃ description, value = .text description
  features : (Document.lookup (.text "features") fields).getD (.list []) =
    .list (wish.features.map .text)
  artifacts : (Document.lookup (.text "artifacts") fields).getD (.map []) =
    .map (wish.artifacts.map fun (name, version) => (.text name, .text version))
  mode : Document.lookup (.text "mode") fields = wish.mode.map fun mode => .text mode.name
  excluded : wish.withoutDefaults = true →
    Document.lookup (.text "default_features") fields = some (.bool false)
  included : wish.withoutDefaults = false →
    Document.lookup (.text "default_features") fields = none ∨
      Document.lookup (.text "default_features") fields = some (.bool true)

/-- A profile that states a wish. -/
def profile (wish : Wish) (title : String) : List (Scalar × Document) :=
  [(.text "name", .text title),
    (.text "features", .list (wish.features.map .text)),
    (.text "artifacts",
      .map (wish.artifacts.map fun (name, version) => (.text name, .text version)))] ++
    (wish.mode.map fun mode => (.text "mode", .text mode.name)).toList ++
    if wish.withoutDefaults then [(.text "default_features", .bool false)] else []

theorem statedIn_profile (wish : Wish) (title : String) :
    wish.StatedIn title (wish.profile title) := by
  obtain ⟨features, artifacts, mode, withoutDefaults⟩ := wish
  cases mode <;> cases withoutDefaults <;>
    constructor <;> simp [profile, Document.lookup]

/-- The mode that a wish comes to, given the section on builds of the settings. -/
def modeIn (wish : Wish) (build : List (Scalar × Document)) : Document :=
  match wish.mode with
  | some mode => .text mode.name
  | none => (Document.lookup (.text "mode") build).getD (.text "release")

/-- What a wish comes to about the default set, given the section on builds of the settings. -/
def defaultsIn (wish : Wish) (build : List (Scalar × Document)) : Document :=
  if wish.withoutDefaults then .bool false
  else (Document.lookup (.text "default_features") build).getD (.bool true)

/-- What a profile comes to about the default set, given the section on builds of the settings. -/
def defaultsOf (fields build : List (Scalar × Document)) : Document :=
  (Document.lookup (.text "default_features") fields).getD
    ((Document.lookup (.text "default_features") build).getD (.bool true))

/-- The request that a wish amounts to, given what it comes to about the default set and the section
on builds of the settings. -/
def request (wish : Wish) (title : String) (defaults : Document)
    (build : List (Scalar × Document)) : Request String where
  name := .text title
  features := .ofList wish.features
  defaultFeatures := defaults
  artifacts := wish.artifacts
  mode := wish.modeIn build

end Wish

/-- A section of settings is a map with these fields. -/
def Host.HasSection (settings : Document) (key : String) (fields : List (Scalar × Document)) :
    Prop :=
  ∃ part, settings.field key = .ok part ∧ part.opened = .map fields

/-! ## Reading documents -/

namespace Document

theorem field?_of_opened {document : Document} {fields : List (Scalar × Document)}
    (opened : document.opened = .map fields) (key : String) :
    document.field? key = .ok (lookup (.text key) fields) := by
  rw [field?, opened]

theorem field?_of_field {document value : Document} {key : String}
    (found : document.field key = .ok value) : document.field? key = .ok (some value) := by
  unfold field at found
  unfold field?
  split at found
  · split at found
    · next present =>
      cases found
      exact congrArg Except.ok present
    · cases found
  · cases found

/-- A list of texts is read to the set of them. -/
theorem names_list_text (texts : List String) :
    (Document.list (texts.map .text)).names = .ok (NameSet.ofList texts) := by
  have members : (texts.map Document.text).mapM
      (fun element => do Label.key (← Label.ofDocument element : String)) = .ok texts := by
    rw [mapM_eq_ok_iff_map, List.map_map]
    exact List.map_congr_left fun name _ => rfl
  exact congrArg (· >>= fun members => pure (NameSet.ofList members)) members

end Document

namespace Wish

variable {wish : Wish} {title : String} {fields build : List (Scalar × Document)}

/-! ## The schema -/

theorem keeps_boolean (value : Bool) :
    (Schema.rules [.kind .boolean]).Keeps (.bool value) := by
  simp [Schema.keeps_rules_iff, Rule.Holds, Kind.admits, Document.opened]

theorem keeps_mode (mode : BuildMode) :
    (Schema.rules [.kind .string, .oneOf ["release", "dev"]]).Keeps (.text mode.name) := by
  cases mode <;>
    simp [Schema.keeps_rules_iff, Rule.Holds, Kind.admits, Document.opened, Scalar.asText?,
      BuildMode.name]

theorem keeps_artifacts {artifacts : Artifacts String}
    (versions : ∀ entry ∈ artifacts, entry.2 ≠ "") :
    (Schema.rules [.kind .object, .eachField Schema.someText]).Keeps
      (.map (artifacts.map fun (name, version) => (.text name, .text version))) := by
  have kept : ∀ field ∈ artifacts.map fun (name, version) =>
      (Scalar.text name, Document.text version), Schema.someText.Keeps field.2 := by
    rw [List.forall_mem_map]
    exact fun entry present => Schema.keeps_someText_iff.2 (versions entry present)
  simpa [Schema.keeps_rules_iff, Rule.Holds, Kind.admits, Document.opened] using kept

theorem keeps_features {features : List String} (nonempty : ∀ name ∈ features, name ≠ "") :
    (Schema.listOf Schema.someText).Keeps (.list (features.map .text)) := by
  refine Schema.keeps_listOf_iff.2 ⟨_, rfl, ?_⟩
  rw [List.forall_mem_map]
  exact fun name present => Schema.keeps_someText_iff.2 (nonempty name present)

theorem StatedIn.keeps_profile (stated : wish.StatedIn title fields) (titled : title ≠ "")
    (features : ∀ name ∈ wish.features, name ≠ "")
    (versions : ∀ entry ∈ wish.artifacts, entry.2 ≠ "") :
    Schema.profile.Keeps (.map fields) := by
  refine Schema.keeps_record_iff.2 ⟨fields, rfl, ?_, ?_, ?_⟩
  · simpa using ⟨_, stated.title⟩
  · simpa using stated.known
  · -- The parts of the schema, in their order.
    simp only [List.forall_mem_cons, List.not_mem_nil, false_implies, implies_true, and_true]
    refine ⟨fun value found => ?_, fun value found => ?_, fun value found => ?_,
      fun value found => ?_, fun value found => ?_, fun value found => ?_⟩
    · cases stated.title.symm.trans found
      exact Schema.keeps_someText_iff.2 titled
    · obtain ⟨description, rfl⟩ := stated.description value found
      exact Schema.keeps_anyText description
    · have listed := stated.features
      rw [found] at listed
      cases listed
      exact keeps_features features
    · cases without : wish.withoutDefaults with
      | true =>
        cases (stated.excluded without).symm.trans found
        exact keeps_boolean false
      | false =>
        rcases stated.included without with absent | mentioned
        · cases absent.symm.trans found
        · cases mentioned.symm.trans found
          exact keeps_boolean true
    · have chosen := stated.mode.symm.trans found
      obtain ⟨mode, _, rfl⟩ := Option.map_eq_some_iff.1 chosen
      exact keeps_mode mode
    · have declared := stated.artifacts
      rw [found] at declared
      cases declared
      exact keeps_artifacts versions

/-! ## Loading -/

theorem StatedIn.loadProfile_eq (stated : wish.StatedIn title fields) (titled : title ≠ "")
    (features : ∀ name ∈ wish.features, name ≠ "")
    (versions : ∀ entry ∈ wish.artifacts, entry.2 ≠ "") {tree : FileTree} {path : String}
    (stands : tree.find? (.ofText path) = .ok (some (.file (.ok (.map fields))))) :
    tree.loadProfile path = .ok (.map fields) := by
  have nonempty : (Document.map fields).truthy = true := by
    cases fields with
    | nil => cases stated.title
    | cons _ _ => rfl
  exact FileTree.loadProfile_eq_ok_iff.2
    ⟨stands, nonempty, stated.keeps_profile titled features versions⟩

theorem StatedIn.readArtifacts_eq (stated : wish.StatedIn title fields) :
    Request.readArtifacts (.map fields) = .ok wish.artifacts := by
  have declared : ((Document.lookup (.text "artifacts") fields).getD (.map [])).fields =
      .ok (wish.artifacts.map fun (name, version) => (.text name, .text version)) := by
    rw [stated.artifacts]
    rfl
  rw [Request.readArtifacts, Document.field?_of_opened rfl, ok_bind, declared, ok_bind,
    List.filterMap_map]
  exact congrArg Except.ok List.filterMap_some

theorem StatedIn.ofProfile_eq (stated : wish.StatedIn title fields) {settings : Document}
    (hasBuild : Host.HasSection settings "build" build) :
    Request.ofProfile (.map fields) settings =
      .ok (wish.request title (defaultsOf fields build) build) := by
  obtain ⟨part, found, opened⟩ := hasBuild
  have profile := Document.field?_of_opened (rfl : (Document.map fields).opened = .map fields)
  have named : (Document.map fields).field "name" = .ok (.text title) := by
    simp [Document.field, Document.opened, stated.title]
  simp only [Request.ofProfile, Document.field?_of_field found, profile, ok_bind, Option.getD_some,
    Document.field?_of_opened opened, named, stated.features, Document.names_list_text,
    stated.readArtifacts_eq, stated.mode, pure_eq_ok]
  simp only [request, defaultsOf, modeIn]
  cases wish.mode <;> rfl

/-- A profile that asks for the default set overrules the settings, so these have to agree with
it. -/
theorem StatedIn.truthy_defaultsOf (stated : wish.StatedIn title fields)
    (settled : Document.lookup (.text "default_features") fields = some (.bool true) →
      (wish.defaultsIn build).truthy = true) :
    (defaultsOf fields build).truthy = (wish.defaultsIn build).truthy := by
  cases without : wish.withoutDefaults with
  | true => simp [defaultsOf, stated.excluded without, defaultsIn, without]
  | false =>
    rcases stated.included without with absent | mentioned
    · simp [defaultsOf, absent, defaultsIn, without]
    · rw [settled mentioned, defaultsOf, mentioned]
      rfl

end Wish

end FeatureResolution
