import FeatureResolution.CheckedFile
import FeatureResolution.Proofs.ManifestReading

/-!
# What loading a manifest can fail with

A document that keeps the schema of manifests is read without failure, so what can still be wrong
with it is found by the checks on a table. These find a broken table (`IsFinding`) and nothing else,
since everything in it is called by texts: names can be looked up, targets can be put in order, and
the names along a cycle can be told.

So a manifest fails with a finding on the table, also where the file is absent, is no document or
breaks the schema. The exceptions are listed by `LoadFailure`: the system may refuse to follow the
path, the file may hold a value that cannot be read, and the wording of what breaks the schema may
have to quote a number that is too long to be written out (`loadRegistry_longOwner`).
-/

namespace FeatureResolution

open Label

variable {ν : Type} [Label ν]

/-! ## Cycles -/

namespace CycleSearch

variable {property : ν → Prop} {targets : ν → List ν} {state : CycleSearch ν}

/-- All names that a walk has come to or will go to have a property. -/
structure Keeps (property : ν → Prop) (state : CycleSearch ν) : Prop where
  path : ∀ name ∈ state.path, property name
  pending : ∀ row ∈ state.pending, ∀ target ∈ row, property target

theorem Keeps.enter (keeps : Keeps property state) {name : ν} (holds : property name)
    (lead : ∀ target ∈ targets name, property target) :
    Keeps property (enter targets name state) where
  path := List.forall_mem_cons.2 ⟨holds, keeps.path⟩
  pending := List.forall_mem_cons.2 ⟨lead, keeps.pending⟩

/-- A cycle is made up of names on the path and a target. -/
theorem Keeps.closedBy {path : List ν} (keeps : ∀ name ∈ path, property name) {target : ν}
    (holds : property target) : ∀ name ∈ closedBy target path, property name := by
  intro name present
  rcases List.mem_append.1 present with inPath | last
  · exact keeps name (List.mem_reverse.1 ((List.dropWhile_sublist _).mem inPath))
  · exact List.mem_singleton.1 last ▸ holds

theorem step_safe (lead : ∀ name, property name → ∀ target ∈ targets name, property target)
    (keeps : Keeps property state) :
    Safe (fun cycle => ∀ name ∈ cycle, property name) (Keeps property) (step targets state) := by
  obtain ⟨path, pending, visiting, done⟩ := state
  obtain ⟨pathKeeps, pendingKeeps⟩ := keeps
  unfold step
  split
  · next _ _ name path pending onPath waiting =>
    cases onPath
    cases waiting
    exact ⟨(List.forall_mem_cons.1 pathKeeps).2, (List.forall_mem_cons.1 pendingKeeps).2⟩
  · next _ _ _ target rest pending waiting =>
    cases waiting
    obtain ⟨rowKeeps, restKeeps⟩ := List.forall_mem_cons.1 pendingKeeps
    obtain ⟨holds, laterHold⟩ := List.forall_mem_cons.1 rowKeeps
    have followed : Keeps property ⟨path, rest :: pending, visiting, done⟩ :=
      ⟨pathKeeps, List.forall_mem_cons.2 ⟨laterHold, restKeeps⟩⟩
    split
    · exact Keeps.closedBy pathKeeps holds
    · dsimp only
      split
      · exact followed
      · exact followed.enter holds (lead target holds)
  · exact ⟨pathKeeps, pendingKeeps⟩

theorem run_safe (lead : ∀ name, property name → ∀ target ∈ targets name, property target)
    (fuel : Nat) (keeps : Keeps property state) :
    Safe (fun cycle => ∀ name ∈ cycle, property name) (Keeps property)
      (run targets fuel state) := by
  induction fuel generalizing state with
  | zero => exact keeps
  | succ fuel ih =>
    unfold run
    split
    · exact keeps
    · have stepped := step_safe lead keeps
      split
      · next next found => exact ih (stepped.of_ok found)
      · next cycle found => exact stepped.of_error found

/-- Where edges lead from names with a property to names with the property, a cycle that is found
below such names consists of such names. -/
theorem walk_safe (lead : ∀ name, property name → ∀ target ∈ targets name, property target)
    {names : List ν} (hold : ∀ name ∈ names, property name) :
    Safe (fun cycle => ∀ name ∈ cycle, property name) (Keeps property) (walk targets names) := by
  have begins : Keeps property start := ⟨List.forall_mem_nil _, List.forall_mem_nil _⟩
  refine safe_foldlM begins fun state keeps root present => ?_
  unfold visit
  split
  · exact keeps
  · exact run_safe lead _ (keeps.enter (hold root present) (lead root (hold root present)))

end CycleSearch

/-! ## Checks on a table -/

/-- A finding on the table of flags. -/
def IsFinding (error : Error) : Prop :=
  ∃ broken, error = .refused (.registry broken)

namespace Registry

variable {flags : List (Flag ν)}

theorem checkNames_safe (names : ∀ flag ∈ flags, IsText flag.name) (seen : List ν) :
    Safe IsFinding (fun _ => True) (checkNames seen flags) := by
  induction flags generalizing seen with
  | nil => trivial
  | cons flag rest ih =>
    obtain ⟨isText, restTexts⟩ := List.forall_mem_cons.1 names
    unfold checkNames
    split
    · exact ⟨_, rfl⟩
    · rw [isText.isKey]
      split
      · contradiction
      · split
        · exact ⟨_, rfl⟩
        · exact ih restTexts _

theorem checkDeclared_safe {names : List ν} (texts : ∀ name ∈ names, IsText name) :
    Safe IsFinding (fun _ => True) (checkDeclared flags names) := by
  induction names with
  | nil => trivial
  | cons name rest ih =>
    obtain ⟨isText, restTexts⟩ := List.forall_mem_cons.1 texts
    unfold checkDeclared
    rw [isText.isKey]
    split
    · contradiction
    · split
      · exact ih restTexts
      · exact ⟨_, rfl⟩

theorem checkTargets_safe
    (targets : ∀ flag ∈ flags, ∀ target ∈ flag.implies.toList, IsText target) :
    Safe IsFinding (fun _ => True) (checkTargets flags) := by
  refine safe_forM fun flag present => ?_
  rw [NameSet.sorted, ordered_of_isText (targets flag present), ok_bind]
  exact checkDeclared_safe (targets flag present)

theorem checkPair_safe {pair : Except Error (ν × ν)}
    (read : Safe IsFinding (fun members => IsText members.1 ∧ IsText members.2) pair) :
    Safe IsFinding (fun _ => True) (checkPair flags pair) := by
  refine read.bind fun members isText => ?_
  have texts : ∀ name ∈ [members.1, members.2], IsText name := by simpa using isText
  exact (checkDeclared_safe texts).bind fun _ _ => trivial

theorem checkAcyclic_safe (names : ∀ flag ∈ flags, IsText flag.name)
    (targets : ∀ flag ∈ flags, ∀ target ∈ flag.implies.toList, IsText target) :
    Safe IsFinding (fun _ => True) (checkAcyclic flags) := by
  have lead : ∀ name, IsText name → ∀ target ∈ Registry.targets flags name, IsText target := by
    intro name _ target present
    unfold Registry.targets at present
    split at present
    · next flag found =>
      exact targets flag (List.mem_of_find?_eq_some found) target (List.mem_filter.1 present).1
    · cases present
  have walked := CycleSearch.walk_safe lead (List.forall_mem_map.2 names)
  unfold checkAcyclic
  split
  · trivial
  · next cycle found =>
    obtain ⟨told, names⟩ := exists_texts (walked.of_error found)
    rw [cycleError, names]
    exact ⟨_, rfl⟩

/-- A table that calls everything by texts is made a registry or is broken. -/
theorem assemble_safe {defaults : Except Error (NameSet ν)}
    {conflicts : Except Error (List (Except Error (ν × ν)))}
    (texts : ∀ flag ∈ flags, IsText flag.name ∧ ∀ target ∈ flag.implies.toList, IsText target)
    (defaultTexts : Safe IsFinding (fun names => ∀ name ∈ names.toList, IsText name) defaults)
    (pairTexts : Safe IsFinding (fun pairs => ∀ pair ∈ pairs,
      Safe IsFinding (fun members => IsText members.1 ∧ IsText members.2) pair) conflicts)
    (artifact : Option (Artifact ν)) :
    Safe IsFinding (fun _ => True) (assemble flags defaults conflicts artifact) := by
  unfold assemble
  refine (checkNames_safe (fun flag present => (texts flag present).1) []).bind fun _ _ => ?_
  refine defaultTexts.bind fun defaults defaultTexts => ?_
  rw [NameSet.sorted, ordered_of_isText defaultTexts, ok_bind]
  refine (checkDeclared_safe defaultTexts).bind fun _ _ => ?_
  have markedTexts : ∀ flag ∈ markDefaults defaults flags,
      IsText flag.name ∧ ∀ target ∈ flag.implies.toList, IsText target := by
    intro flag present
    obtain ⟨unmarked, wasPresent, rfl⟩ := List.mem_map.1 present
    split
    · exact texts unmarked wasPresent
    · exact texts unmarked wasPresent
  have targets := fun flag present => (markedTexts flag present).2
  refine (checkTargets_safe targets).bind fun _ _ => ?_
  refine pairTexts.bind fun pairs pairTexts => ?_
  refine (safe_mapM fun pair present => checkPair_safe (pairTexts pair present)).bind fun _ _ => ?_
  exact (checkAcyclic_safe (fun flag present => (markedTexts flag present).1) targets).bind
    fun _ _ => trivial

/-- An accepted manifest is made a registry or is broken. -/
theorem ofTable_safe [ReadsTexts ν] {table : Document} (accepted : Schema.manifest.Accepts table)
    (short : ShortRequirements table) :
    Safe IsFinding (fun _ => True) (ofTable table : Except Error (Registry ν)) := by
  unfold ofTable
  refine (readArtifact_safe accepted).bind fun artifact _ => ?_
  have entriesSafe : Safe IsFinding _ (readElements "flags" table) :=
    (readElements_safe accepted [.minItems 1, .items Schema.flag] Schema.flag (by simp)
      (by simp)).and_eq
  refine entriesSafe.bind fun entries listed => ?_
  obtain ⟨listed, entriesOk⟩ := listed
  have flagsSafe : Safe IsFinding (fun flags : List (Flag ν) => ∀ flag ∈ flags,
      IsText flag.name ∧ ∀ name ∈ flag.implies.toList, IsText name) (entries.mapM Flag.read) :=
    safe_mapM fun entry present =>
      Flag.read_safe (entriesOk entry present) (short entries listed entry present)
  refine flagsSafe.bind fun flags texts => ?_
  have defaultsSafe : Safe IsFinding (fun names : NameSet ν => ∀ name ∈ names.toList, IsText name)
      (Flag.readNames "default" table) :=
    Flag.readNames_safe accepted (by simp) fun _ => Schema.isText_of_accepts_flagName
  have conflictsSafe : Safe IsFinding _ (readElements "conflicts" table) :=
    readElements_safe accepted [.items Schema.conflict] Schema.conflict (by simp [Schema.listOf])
      (by simp)
  refine assemble_safe texts defaultsSafe (conflictsSafe.map ?_) artifact
  intro conflicts conflictsOk
  rw [List.forall_mem_map]
  exact fun conflict present => readPair_safe (conflictsOk conflict present)

end Registry

/-! ## Loading -/

namespace FileTree

/-- What loading a manifest can fail with. -/
inductive LoadFailure (tree : FileTree) (path : String) : Error → Prop
  /-- The table of flags is broken, or there is no manifest at the path. -/
  | finding (broken : RegistryError) : LoadFailure tree path (.refused (.registry broken))
  /-- The system does not follow the path. -/
  | unusable : tree.find (.ofText path) = .refused →
      LoadFailure tree path (.fault .unusablePath)
  /-- The file holds a value that cannot be read. -/
  | unreadable {parts : List String} {fault : Fault} :
      tree.find (.ofText path) = .found parts (.file (.error fault)) →
      (∀ stage, fault ≠ .unparsable stage) → LoadFailure tree path (.fault fault)
  /-- The document in the file breaks the schema and holds something too long to be written out. -/
  | overlong {parts : List String} {document : Document} :
      tree.find (.ofText path) = .found parts (.file (.ok document)) →
      ¬ Schema.manifest.Keeps document → document.Overlong →
      LoadFailure tree path (.fault .numberTooLong)

variable {tree : FileTree} {path : String}

theorem LoadFailure.of_finding {error : Error} (finding : IsFinding error) :
    LoadFailure tree path error := by
  obtain ⟨broken, rfl⟩ := finding
  exact .finding broken

/-- The document of a file. -/
def Holds (tree : FileTree) (path : String) (document : Document) : Prop :=
  ∃ parts, tree.find (.ofText path) = .found parts (.file (.ok document))

theorem loadManifest_safe (plain : ∀ document, tree.Holds path document → document.Plain) :
    Safe (LoadFailure tree path)
      (fun document => tree.Holds path document ∧ Schema.manifest.Accepts document)
      (tree.loadManifest path) := by
  unfold loadManifest load find?
  cases found : tree.find (.ofText path) with
  | missing | notDirectory => exact .finding _
  | refused => exact .unusable found
  | found parts node =>
    cases node with
    | directory => exact .finding _
    | file content =>
      cases content with
      | error fault =>
        cases fault with
        | unparsable stage => exact .finding _
        | _ => exact .unreadable found nofun
      | ok document =>
        have isPlain := plain document ⟨parts, found⟩
        rw [ok_bind]
        dsimp only
        split
        · exact .finding _
        · by_cases keeps : Schema.manifest.Keeps document
          · rw [Schema.check_eq_ok_none_iff.2 keeps]
            exact ⟨⟨parts, found⟩, keeps, isPlain⟩
          · have checked := (Schema.check_safe Schema.locates_manifest isPlain).and_eq
            refine (checked.mono ?_ fun _ reported => reported.1).bind fun report reported => ?_
            · rintro _ ⟨rfl, overlong⟩
              exact .overlong found keeps overlong
            · cases report with
              | none => exact absurd (Schema.check_eq_ok_none_iff.1 reported) keeps
              | some violation => exact .finding _

/-- Loading a manifest yields a registry or fails as `LoadFailure` says, whatever stands at the
path: if it is a file with a document in it, this only has to be plain, like those of JSON, and
without requirements with overlong numbers. -/
theorem loadRegistry_outcome [ReadsTexts ν] (tree : FileTree) (path : String)
    (plain : ∀ document, tree.Holds path document → document.Plain)
    (short : ∀ document, tree.Holds path document → Registry.ShortRequirements document) :
    (∃ registry : Registry ν, tree.loadRegistry path = .ok registry) ∨
      ∃ error, (tree.loadRegistry path : Except Error (Registry ν)) = .error error ∧
        LoadFailure tree path error := by
  have safe : Safe (LoadFailure tree path) (fun _ => True)
      (tree.loadRegistry path : Except Error (Registry ν)) := by
    refine (loadManifest_safe plain).bind fun document loaded => ?_
    obtain ⟨held, accepted⟩ := loaded
    exact (Registry.ofTable_safe accepted (short document held)).mono
      (fun _ => LoadFailure.of_finding) fun _ _ => trivial
  exact (safe_iff.1 safe).imp_left fun ⟨registry, loaded, _⟩ => ⟨registry, loaded⟩

/-- Files of which one holds a document. -/
def holding (document : Document) : FileTree :=
  ⟨[], [(["m.yaml"], .file (.ok document))]⟩

theorem find_holding (document : Document) :
    (holding document).find (.ofText "m.yaml") = .found ["m.yaml"] (.file (.ok document)) :=
  (find_eq_follow (by decide) (by decide)).trans rfl

theorem eq_of_holds {document other : Document} (held : (holding document).Holds "m.yaml" other) :
    document = other := by
  obtain ⟨parts, found⟩ := held
  cases (find_holding document).symm.trans found
  rfl

/-- A manifest that declares one flag, with a requirement. -/
def pinnedManifest : Document :=
  .map [(.text "artifact", .map [(.text "name", .text "core"), (.text "version", .text "1.0.0")]),
    (.text "flags", .list [.map [(.text "name", .text "macros"),
      (.text "requirement", .text "^1.0")]])]

theorem plain_pinnedManifest : pinnedManifest.Plain := by
  refine .map ?_
  simp only [List.forall_mem_cons]
  refine ⟨.map ?_, .list ?_, List.forall_mem_nil _⟩
  · simp only [List.forall_mem_cons]
    exact ⟨.scalar _, .scalar _, List.forall_mem_nil _⟩
  · rw [List.forall_mem_singleton]
    refine .map ?_
    simp only [List.forall_mem_cons]
    exact ⟨.scalar _, .scalar _, List.forall_mem_nil _⟩

theorem shortRequirements_pinnedManifest : Registry.ShortRequirements pinnedManifest := by
  intro entries listed entry present key isKey value found _
  cases listed
  cases List.mem_singleton.1 present
  have same : value = .text "^1.0" := by
    simp only [List.mem_cons, List.not_mem_nil, or_false] at isKey
    rcases isKey with rfl | rfl <;> cases found
    rfl
  subst same
  rintro major minor patch cut digits inRuns
  cases cut
  revert digits
  decide

/-- The hypotheses hold of a manifest with a requirement. -/
theorem loadRegistry_outcome_pinnedManifest :
    (∃ registry : Registry String,
        (holding pinnedManifest).loadRegistry "m.yaml" = .ok registry) ∨
      ∃ error, ((holding pinnedManifest).loadRegistry "m.yaml" :
          Except Error (Registry String)) = .error error ∧
        LoadFailure (holding pinnedManifest) "m.yaml" error :=
  loadRegistry_outcome _ _ (fun _ held => eq_of_holds held ▸ plain_pinnedManifest)
    fun _ held => eq_of_holds held ▸ shortRequirements_pinnedManifest

/-! ## A number that is too long -/

/-- A document that gives the least number that is too long to be written out as the owner. -/
def longOwner : Document :=
  .map [(.text "artifact", .int (Nat.pow 10 Text.digitLimit : Nat))]

/-- Two things break the schema: there is no field for the flags, and the owner is no map. -/
theorem violations_owner (number : Scalar) :
    Schema.manifest.violations (.map [(.text "artifact", .scalar number)]) =
      [⟨[], .map [(.text "artifact", .scalar number)], true, .missingField "flags"⟩,
        ⟨[.field (.text "artifact")], .scalar number, false, .wrongKind .object⟩] := by
  have sorted : Text.sortedBy Scalar.shown [] = [] := rfl
  simp [Schema.manifest, Schema.record, Schema.owner, Schema.violations, rulesViolations,
    ruleViolations, fieldsViolations, Rule.expectedKind?, Kind.admits, Document.opened,
    Document.lookup, extraNames, Violation.under, sorted]

theorem check_owner {number : Scalar} (unwritable : number.isWritable = false) :
    Schema.manifest.check (.map [(.text "artifact", .scalar number)]) =
      .error (.fault .numberTooLong) := by
  rw [Schema.check, violations_owner number]
  simp [Violation.best, needWritable, Cause.isWritable, Document.isWritable, unwritable]

/-- A document of JSON without any requirement, in which the number makes loading fail otherwise
than with a finding. -/
theorem loadRegistry_longOwner :
    longOwner.Plain ∧ Registry.ShortRequirements longOwner ∧
      ((holding longOwner).loadRegistry "m.yaml" : Except Error (Registry String)) =
        .error (.fault .numberTooLong) ∧
      ¬ IsFinding (.fault .numberTooLong) := by
  have writable (value : Nat) : (Scalar.int value).isWritable =
    decide (value < Nat.pow 10 Text.digitLimit) := rfl
  have unwritable : (Scalar.int (Nat.pow 10 Text.digitLimit : Nat)).isWritable = false := by
    rw [writable, decide_eq_false (Nat.lt_irrefl _)]
  refine ⟨.map (List.forall_mem_singleton.2 (.scalar _)), ?_, ?_, nofun⟩
  · intro entries listed
    cases listed
    exact List.forall_mem_nil _
  · rw [loadRegistry, loadManifest, load, find?, find_holding, ok_bind]
    dsimp only
    rw [longOwner, check_owner unwritable]
    rfl

end FileTree

end FeatureResolution
