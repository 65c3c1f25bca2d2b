import FeatureResolution.Build
import FeatureResolution.Proofs.Pins
import FeatureResolution.Proofs.Safety
import FeatureResolution.Registry.Table

/-!
# What a request can fail with

A table that calls its flags and artifacts by texts may otherwise hold anything. Whatever registry
it becomes, the flags of the registry are called by texts, what they imply are such names too, since
every target was looked up, and each contract is of a known mode and requires a version that has
been parsed before (`Textual`).

So nothing that a request goes through can meet a value of the wrong form. The names that it meets
are requested or stand in the registry, and what holds of those holds of all that is enabled
(`Inherited`, `closure_safe`). Hence every look-up is made under a text, names have an order, and a
declared version that is no version only fails to satisfy its contract (`Contract.check_safe`). What
is left is the five findings of `RequestFinding`.
-/

namespace FeatureResolution

open Label

variable {ν : Type} [Label ν]

/-! ## Contracts -/

/-- A contract that can be checked: its artifact can be looked up, its mode is known and the version
that it requires is one. -/
structure Contract.Checkable (contract : Contract ν) : Prop where
  artifact : IsText contract.artifact
  mode : contract.mode = .exact ∨ contract.mode = .compatible
  version : ∃ version, Version.parse (shown contract.version) = .ok version

theorem Contract.checkable_of_parse {artifact : ν} (isText : IsText artifact) {requirement : String}
    {contract : Contract ν} (parsed : Contract.parse artifact requirement = .ok contract) :
    contract.Checkable := by
  obtain ⟨rfl, known, _, readable⟩ := sound_of_parse parsed
  exact ⟨isText, known, readable⟩

/-! ## Findings -/

/-- The findings that a request can end with. -/
inductive RequestFinding : Error → Prop
  | unknownFlag (name : Document) : RequestFinding (.unknownFlag name)
  | missingArtifact (flag artifact : Document) : RequestFinding (.missingArtifact flag artifact)
  | versionMismatch (required found artifact : Document) :
      RequestFinding (.versionMismatch required found artifact)
  | incompatibleVersion (required found artifact : Document) :
      RequestFinding (.incompatibleVersion required found artifact)
  | conflict (first second : Document) : RequestFinding (.conflict first second)

/-- Whatever is declared, a contract that can be checked is kept or not. -/
theorem Contract.Checkable.check_safe {contract : Contract ν} (checkable : contract.Checkable)
    (found : ν) : Safe RequestFinding (fun _ => True) (contract.check found) := by
  obtain ⟨_, exact | compatible, version, parsed⟩ := checkable
  · rw [check, exact]
    dsimp only
    split
    · trivial
    · exact .versionMismatch _ _ _
  · -- The required version was parsed before, and a declared one that is none is refused.
    rw [check, compatible]
    dsimp only
    rw [parsed, ok_bind]
    split
    · exact .incompatibleVersion _ _ _
    · split
      · trivial
      · exact .incompatibleVersion _ _ _

/-- Only names with a property are enabled. -/
structure ClosureState.Only (holds : ν → Prop) (state : ClosureState ν) : Prop where
  working : ∀ name ∈ state.working.toList, holds name
  frontier : ∀ name ∈ state.frontier.toList, holds name

namespace Registry

variable {registry : Registry ν}

/-- A registry that calls flags and artifacts by texts and holds no contract that cannot be
checked. -/
structure Textual (registry : Registry ν) : Prop where
  names : ∀ flag ∈ registry.flags, IsText flag.name
  targets : ∀ flag ∈ registry.flags, ∀ target ∈ flag.implies.toList, IsText target
  contracts : ∀ flag ∈ registry.flags, ∀ contract,
    flag.contract = some contract ∨ flag.devContract = some contract → contract.Checkable

/-- A property that names keep on the way through a registry: the names of the flags have it, the
targets of their implications have it, and only texts have it. -/
structure Inherited (registry : Registry ν) (holds : ν → Prop) : Prop where
  texts : ∀ name, holds name → IsText name
  names : ∀ flag ∈ registry.flags, holds flag.name
  targets : ∀ flag ∈ registry.flags, ∀ target ∈ flag.implies.toList, holds target

theorem Textual.inherited (textual : registry.Textual) : registry.Inherited IsText where
  texts _ isText := isText
  names := textual.names
  targets := textual.targets

/-! ## Stages of a request -/

theorem get_safe {name : ν} (isText : IsText name) :
    Safe RequestFinding (· ∈ registry.flags) (registry.get name) := by
  rw [get, if_pos isText.isKey]
  split
  · next found => exact List.mem_of_find?_eq_some found
  · exact .unknownFlag _

section Inheritance

variable {holds : ν → Prop} (inherited : registry.Inherited holds)

include inherited

theorem impliedBy_safe {name : ν} (isText : IsText name) :
    Safe RequestFinding (fun targets => ∀ target ∈ targets.toList, holds target)
      (registry.impliedBy name) :=
  (get_safe isText).bind fun flag declared => inherited.targets flag declared

theorem impliedByAny_safe {names : List ν} (each : ∀ name ∈ names, holds name) :
    Safe RequestFinding (fun implied => ∀ name ∈ implied.toList, holds name)
      (registry.impliedByAny names) := by
  refine safe_foldlM (fun name absent => absurd absent List.not_mem_nil) ?_
  intro implied impliedHolds name present
  have isText := inherited.texts name (each name present)
  exact (impliedBy_safe inherited isText).bind fun targets targetsHold =>
    NameSet.forall_union impliedHolds targetsHold

theorem round_safe {state : ClosureState ν} (each : state.Only holds) :
    Safe RequestFinding (·.Only holds) (registry.round state) := by
  refine (impliedByAny_safe inherited each.frontier).bind fun implied impliedHolds => ?_
  have newHolds := NameSet.forall_filter impliedHolds fun name => !state.working.has name
  exact ⟨NameSet.forall_union each.working newHolds, newHolds⟩

theorem rounds_safe (fuel : Nat) {state : ClosureState ν} (each : state.Only holds) :
    Safe RequestFinding (·.Only holds) (registry.rounds fuel state) := by
  induction fuel generalizing state with
  | zero => exact each
  | succ fuel ih =>
    unfold rounds
    split
    · exact each
    · exact (round_safe inherited each).bind fun next nextHolds => ih nextHolds

theorem closure_safe {names : NameSet ν} (each : ∀ name ∈ names.toList, holds name) :
    Safe RequestFinding (fun enabled => ∀ name ∈ enabled.toList, holds name)
      (registry.closure names) :=
  (rounds_safe inherited _ ⟨each, each⟩).bind fun _ finalHolds => finalHolds.working

/-- A request starts from names with the property if the requested ones, apart from the name of the
default set, have it. -/
theorem holds_initial {requested : NameSet ν}
    (each : ∀ name ∈ requested.toList, same name defaultSetLabel = false → holds name)
    (defaultFeatures : Bool) :
    ∀ name ∈ (registry.initial requested defaultFeatures).toList, holds name := by
  have namedHold : ∀ name ∈ (requested.erase defaultSetLabel).toList, holds name := by
    intro name present
    obtain ⟨asked, other⟩ := List.mem_filter.1 present
    exact each name asked (by simpa using other)
  have defaultsHold : ∀ name ∈ registry.defaultSet.toList, holds name := by
    intro name present
    obtain ⟨flag, kept, rfl⟩ := List.mem_map.1 (NameSet.of_mem_ofList present)
    exact inherited.names flag (List.mem_filter.1 kept).1
  unfold initial
  dsimp only
  split
  · exact NameSet.forall_union namedHold defaultsHold
  · exact namedHold

end Inheritance

theorem checkRequested_safe (names : List ν) :
    Safe RequestFinding (fun _ => True) (registry.checkRequested names) := by
  induction names with
  | nil => trivial
  | cons head rest ih =>
    unfold checkRequested
    split
    · exact ih
    · exact .unknownFlag _

theorem resolve_safe (textual : registry.Textual) {requested : NameSet ν}
    (texts : ∀ name ∈ requested.toList, IsText name) (defaultFeatures : Bool) :
    Safe RequestFinding (fun enabled => ∀ name ∈ enabled.toList, IsText name)
      (registry.resolve requested defaultFeatures) := by
  rw [resolve, NameSet.sorted, ordered_of_isText texts, ok_bind]
  refine (checkRequested_safe _).bind fun _ _ => closure_safe textual.inherited ?_
  exact holds_initial textual.inherited (fun name present _ => texts name present) defaultFeatures

theorem validateFlag_safe (textual : registry.Textual) (artifacts : Artifacts ν) (mode : BuildMode)
    {name : ν} (isText : IsText name) :
    Safe RequestFinding (fun _ => True) (registry.validateFlag artifacts.declared mode name) := by
  have inForce : Safe RequestFinding (fun found => ∀ contract ∈ found, contract.Checkable)
      (registry.contractFor name mode) := by
    refine (get_safe isText).bind fun flag declared contract found => ?_
    exact textual.contracts flag declared contract (Flag.carries_of_contractIn found)
  refine inForce.bind fun found checkable => ?_
  cases found with
  | none => trivial
  | some contract =>
    have checks := checkable contract rfl
    have lookedUp : Safe RequestFinding (fun _ => True) (artifacts.declared contract.artifact) := by
      rw [Artifacts.declared, key, if_pos checks.artifact.isKey]
      trivial
    refine lookedUp.bind fun version _ => ?_
    cases version with
    | none => exact .missingArtifact _ _
    | some version => exact checks.check_safe (ofText version)

theorem validate_safe (textual : registry.Textual) {enabled : NameSet ν}
    (texts : ∀ name ∈ enabled.toList, IsText name) (artifacts : Artifacts ν) (mode : BuildMode) :
    Safe RequestFinding (fun _ => True) (registry.validate enabled artifacts.declared mode) := by
  rw [validate, NameSet.sorted, ordered_of_isText texts, ok_bind]
  exact safe_forM fun name present => validateFlag_safe textual artifacts mode (texts name present)

theorem checkConflicts_safe (enabled : NameSet ν) :
    Safe RequestFinding (fun _ => True) (registry.checkConflicts enabled) := by
  refine safe_forM fun pair _ => ?_
  dsimp only
  split
  · exact .conflict _ _
  · trivial

theorem materialize_safe {enabled : NameSet ν} (texts : ∀ name ∈ enabled.toList, IsText name) :
    Safe RequestFinding (fun _ => True) (registry.materialize enabled) := by
  refine (checkConflicts_safe enabled).bind fun _ _ => safe_foldlM trivial ?_
  intro items _ name present
  exact (get_safe (texts name present)).bind fun _ _ => trivial

/-- A request with texts as features, in a known mode, ends with a result or one of the findings,
whatever versions are declared. -/
theorem Textual.run_safe (textual : registry.Textual) {request : Request ν}
    (features : ∀ name ∈ request.features.toList, IsText name) {mode : BuildMode}
    (known : request.mode = .text mode.name) :
    Safe RequestFinding (fun _ => True) (registry.run request) := by
  have parsed : BuildMode.parse request.mode = .ok mode := by
    rw [known]
    cases mode <;> rfl
  have stages : Safe RequestFinding (fun _ => True)
      (registry.surfaceOf request request.artifacts.declared) := by
    refine (resolve_safe textual features _).bind fun enabled texts => ?_
    rw [parsed, ok_bind]
    refine (validate_safe textual texts request.artifacts mode).bind fun _ _ => ?_
    exact (materialize_safe texts).bind fun _ _ => trivial
  exact stages.bind fun _ _ => trivial

/-! ## Tables -/

/-- Every flag of a table, and the artifact of each flag that names one, is called by a text. -/
def NamedByTexts (table : Document) : Prop :=
  ∀ entries, readElements "flags" table = .ok entries → ∀ entry ∈ entries, ∀ name,
    entry.field "name" = .ok name ∨ entry.field? "artifact" = .ok (some name) →
      name.family? = some .text

theorem parse_of_readContract {artifact : ν} {field : String} {entry : Document}
    {found : Option (Contract ν)} (read : Flag.readContract artifact field entry = .ok found) :
    ∀ contract, found = some contract →
      ∃ requirement, Contract.parse artifact requirement = .ok contract := by
  rintro contract rfl
  obtain ⟨value, _, read⟩ := bind_eq_ok_iff.1 read
  cases value with
  | none => cases read
  | some value =>
    dsimp only at read
    split at read
    · obtain ⟨parsed, parsedRead, ⟨⟩⟩ := bind_eq_ok_iff.1 read
      exact ⟨_, parsedRead⟩
    · cases read

/-- The declaration of a flag is read to its name and to requirements on the artifact that it names,
by default its own name. -/
theorem parts_of_read {entry : Document} {flag : Flag ν} (read : Flag.read entry = .ok flag) :
    ∃ name named, entry.field "name" = .ok name ∧ entry.field? "artifact" = .ok named ∧
      ofDocument name = .ok flag.name ∧
      ∃ artifact, ofDocument (named.getD name) = .ok artifact ∧ ∀ contract,
        flag.contract = some contract ∨ flag.devContract = some contract →
          ∃ requirement, Contract.parse artifact requirement = .ok contract := by
  simp only [Flag.read, bind_eq_ok_iff, pure_eq_ok] at read
  obtain ⟨name, nameFound, named, artifactFound, artifact, artifactRead, contract, contractRead,
    devContract, devContractRead, _, _, _, _, _, _, _, _, _, _, _, _, _, _, _, _, label, labelRead,
    ⟨⟩⟩ := read
  refine ⟨name, named, nameFound, artifactFound, labelRead, artifact, artifactRead, ?_⟩
  rintro carried (found | found)
  · exact parse_of_readContract contractRead carried found
  · exact parse_of_readContract devContractRead carried found

/-- What the declaration of a flag called by texts is read to. -/
theorem read_textual [ReadsTexts ν] {entry : Document} {flag : Flag ν}
    (texts : ∀ name, entry.field "name" = .ok name ∨ entry.field? "artifact" = .ok (some name) →
      name.family? = some .text) (read : Flag.read entry = .ok flag) :
    IsText flag.name ∧ ∀ contract,
      flag.contract = some contract ∨ flag.devContract = some contract → contract.Checkable := by
  obtain ⟨name, named, nameFound, artifactFound, labelRead, artifact, artifactRead, parsed⟩ :=
    parts_of_read read
  have nameText := texts name (.inl nameFound)
  have artifactText : IsText artifact := by
    refine isText_of_ofDocument ?_ artifactRead
    cases named with
    | none => exact nameText
    | some value => exact texts value (.inr artifactFound)
  refine ⟨isText_of_ofDocument nameText labelRead, fun contract carried => ?_⟩
  obtain ⟨requirement, contractParsed⟩ := parsed contract carried
  exact Contract.checkable_of_parse artifactText contractParsed

theorem isText_of_isDeclared {flags : List (Flag ν)} (names : ∀ flag ∈ flags, IsText flag.name)
    {name : ν} (declared : Flag.isDeclared name flags = true) : IsText name := by
  obtain ⟨flag, found⟩ := Option.isSome_iff_exists.1 declared
  unfold Flag.find? at found
  have alike := List.find?_some found
  exact (names flag (List.mem_of_find?_eq_some found)).of_same alike

theorem isDeclared_of_checkDeclared {flags : List (Flag ν)} {targets : List ν}
    (checked : checkDeclared flags targets = .ok ()) :
    ∀ target ∈ targets, Flag.isDeclared target flags = true := by
  induction targets with
  | nil => exact fun target absent => absurd absent List.not_mem_nil
  | cons head rest ih =>
    unfold checkDeclared at checked
    split at checked
    · cases checked
    · split at checked
      · next declared => exact List.forall_mem_cons.2 ⟨declared, ih checked⟩
      · cases checked

theorem isDeclared_of_checkTargets {flags : List (Flag ν)}
    (checked : checkTargets flags = .ok ()) :
    ∀ flag ∈ flags, ∀ target ∈ flag.implies.toList, Flag.isDeclared target flags = true := by
  intro flag declared
  have flagChecked := forM_eq_ok_iff.1 checked flag declared
  obtain ⟨order, isSorted, targetsChecked⟩ := bind_eq_ok_iff.1 flagChecked
  rw [← NameSet.eq_of_sorted isSorted]
  exact isDeclared_of_checkDeclared targetsChecked

/-- Apart from their marks the flags of a registry are as the table declares them. -/
theorem declaration_of_ofTable {table : Document} (made : ofTable table = .ok registry) :
    ∃ entries, readElements "flags" table = .ok entries ∧ ∀ flag ∈ registry.flags,
      ∃ entry ∈ entries, ∃ declared, Flag.read entry = .ok declared ∧
        flag.name = declared.name ∧ flag.contract = declared.contract ∧
        flag.devContract = declared.devContract := by
  simp only [ofTable, ofParts, assemble, bind_eq_ok_iff, pure_eq_ok] at made
  obtain ⟨artifact, _, entries, listed, flags, flagsRead, _, _, defaults, _, _, _, _, _, _, _, _, _,
    _, _, _, _, _, ⟨⟩⟩ := made
  refine ⟨entries, listed, fun flag present => ?_⟩
  obtain ⟨declared, wasPresent, rfl⟩ := List.mem_map.1 present
  have mapped : Except.ok declared ∈ entries.map Flag.read := by
    rw [mapM_eq_ok_iff_map.1 flagsRead]
    exact List.mem_map_of_mem wasPresent
  obtain ⟨entry, inTable, flagRead⟩ := List.mem_map.1 mapped
  refine ⟨entry, inTable, declared, flagRead, ?_⟩
  split
  · exact ⟨rfl, rfl, rfl⟩
  · exact ⟨rfl, rfl, rfl⟩

theorem checkTargets_of_ofTable {table : Document} (made : ofTable table = .ok registry) :
    checkTargets registry.flags = .ok () := by
  simp only [ofTable, ofParts, assemble, bind_eq_ok_iff, pure_eq_ok] at made
  obtain ⟨_, _, _, _, _, _, _, _, _, _, _, _, _, _, _, checked, _, _, _, _, _, _, ⟨⟩⟩ := made
  exact checked

/-- A table called by texts becomes a registry called by texts. -/
theorem textual_of_ofTable [ReadsTexts ν] {table : Document} (named : NamedByTexts table)
    (made : ofTable table = .ok registry) : registry.Textual := by
  obtain ⟨entries, listed, declaration⟩ := declaration_of_ofTable made
  have flagsTextual : ∀ flag ∈ registry.flags, IsText flag.name ∧ ∀ contract,
      flag.contract = some contract ∨ flag.devContract = some contract → contract.Checkable := by
    intro flag present
    obtain ⟨entry, inTable, declared, flagRead, sameName, sameContract, sameDevContract⟩ :=
      declaration flag present
    rw [sameName, sameContract, sameDevContract]
    exact read_textual (named entries listed entry inTable) flagRead
  have names : ∀ flag ∈ registry.flags, IsText flag.name :=
    fun flag present => (flagsTextual flag present).1
  have declared := isDeclared_of_checkTargets (checkTargets_of_ofTable made)
  exact {
    names := names
    targets := fun flag present target implied =>
      isText_of_isDeclared names (declared flag present target implied)
    contracts := fun flag present => (flagsTextual flag present).2 }

/-! ## Result -/

/-- A request in a known mode, with texts as features and any declared versions, to a registry made
of a table that calls flags and artifacts by texts ends with a result or with one of five findings.
The contracts of such a registry are all of a known mode and require versions that can be parsed. -/
theorem run_findings [ReadsTexts ν] (table : Document) (named : NamedByTexts table)
    (registry : Registry ν) (made : ofTable table = .ok registry) (request : Request ν)
    (features : ∀ name ∈ request.features.toList, IsText name) (mode : BuildMode)
    (known : request.mode = .text mode.name) :
    ((∃ result, registry.run request = .ok result) ∨
        ∃ error, registry.run request = .error error ∧ RequestFinding error) ∧
      ∀ flag ∈ registry.flags, ∀ contract,
        flag.contract = some contract ∨ flag.devContract = some contract → contract.Checkable := by
  have textual := textual_of_ofTable named made
  refine ⟨?_, textual.contracts⟩
  rcases safe_iff.1 (textual.run_safe features known) with ⟨result, built, _⟩ | refused
  · exact .inl ⟨result, built⟩
  · exact .inr refused

/-- A table whose one flag, of its own artifact, exposes a number. -/
def numberTable : Document :=
  .map [(.text "flags", .list [.map [(.text "name", .text "macros"),
    (.text "requirement", .text " ^ 1.0 "), (.text "provides", .list [.int 7])]])]

theorem run_findings_numberTable :
    NamedByTexts numberTable ∧ ∃ registry : Registry Document,
      ofTable numberTable = .ok registry ∧
      registry.run
          { features := .ofList [.text "macros"], artifacts := [(.text "macros", "1.x")] } =
        .error (.incompatibleVersion (.text "1.0") (.text "1.x") (.text "macros")) ∧
      RequestFinding (.incompatibleVersion (.text "1.0") (.text "1.x") (.text "macros")) ∧
      ∀ flag ∈ registry.flags, ∀ contract,
        flag.contract = some contract ∨ flag.devContract = some contract → contract.Checkable := by
  have named : NamedByTexts numberTable := by
    intro entries listed entry inTable name found
    cases listed
    cases List.mem_singleton.1 inTable
    rcases found with found | found <;> cases found
    rfl
  let macros : Flag Document :=
    { name := .text "macros", contract := some ⟨.text "macros", .text "1.0", .compatible⟩,
      provides := .ofList [.int 7] }
  have made : ofTable numberTable = .ok ⟨[macros], [], none⟩ := by
    rfl
  let request : Request Document :=
    { features := .ofList [.text "macros"], artifacts := [(.text "macros", "1.x")] }
  have features : ∀ name ∈ request.features.toList, IsText name := by
    intro name present
    cases List.mem_singleton.1 (NameSet.of_mem_ofList present)
    rfl
  have refused : Registry.run ⟨[macros], [], none⟩ request =
      .error (.incompatibleVersion (.text "1.0") (.text "1.x") (.text "macros")) := by
    rfl
  obtain ⟨⟨_, built⟩ | ⟨_, again, finding⟩, checkable⟩ :=
    run_findings numberTable named _ made request features .release rfl
  · cases refused.symm.trans built
  · cases refused.symm.trans again
    exact ⟨named, ⟨[macros], [], none⟩, made, refused, finding, checkable⟩

end Registry

end FeatureResolution
