import FeatureResolution.Proofs.PinConsistency

/-!
# The check for releases

An artifact and its companions are released together, so every exact pin has to name the version of
the owner. The check for releases goes through the flags in the order of their declaration and
compares the pins with the owner's version (`Registry.checkLockstep_eq_ok_iff`,
`Registry.checkLockstep_eq_error_iff`). The validation of a build goes through the enabled flags in
the order of their names and compares declared versions with the contracts. Where the artifacts of
all contracts are declared at the owner's version, both want the same of an exact pin
(`Contract.keptBy_iff_agrees`).

1. No two flags have names that are the same, so every flag is found under its name
   (`Registry.get_of_same`), and the contracts in force on the flags with an exact pin are the exact
   pins (`Registry.mem_laid_exactlyPinned`).
2. What a request enables is declared (`Registry.contains_of_resolve`), since it was asked for,
   marked as a default or implied.

So the check for releases passes exactly when the validation of all flags with an exact pin does,
and then a build on exact pins alone passes its validation whatever it enables.
-/

namespace FeatureResolution

open Label

variable {ν : Type} [Label ν]

/-! ## Exact pins -/

theorem Label.agrees_comm_of_text {first second : ν} {value : String}
    (isText : document second = .text value) : agrees first second = agrees second first := by
  rw [agrees, agrees, isText]
  cases document first with
  | scalar known => exact Scalar.same_comm known (.text value)
  | _ => rfl

namespace Flag

variable {flag : Flag ν} {pin : Contract ν}

/-- The release contract of a flag where it is an exact pin. -/
def pin? (flag : Flag ν) : Option (Contract ν) :=
  flag.contract.filter fun contract => contract.mode = .exact

theorem pin?_eq_some_iff :
    flag.pin? = some pin ↔ flag.contract = some pin ∧ pin.mode = .exact := by
  simp [pin?, Option.filter_eq_some_iff]

/-- The exact pin of a flag, if it has one, is on a version. -/
def InStep (flag : Flag ν) (version : String) : Prop :=
  ∀ pin, flag.pin? = some pin → Label.agrees pin.version (ofText version) = true

theorem not_inStep_iff {version : String} : ¬ flag.InStep version ↔
    ∃ pin, flag.pin? = some pin ∧ Label.agrees pin.version (ofText version) = false := by
  simp [InStep]

end Flag

/-- An exact pin is kept by the version that is found of its artifact if it is on that version. -/
theorem Contract.keptBy_iff_agrees {contract : Contract ν} (exact : contract.mode = .exact)
    {declared : ν → Except Error (Option String)} {version : String}
    (found : declared contract.artifact = .ok (some version)) :
    contract.KeptBy declared ↔ Label.agrees contract.version (ofText version) = true := by
  have alike : Label.agrees contract.version (ofText version) =
      Label.agrees (ofText version) contract.version :=
    agrees_comm_of_text (document_ofText version)
  have checked : contract.check (ofText version) = .ok () ↔
      Label.agrees contract.version (ofText version) = true := by
    rw [check, exact, alike]
    dsimp only
    split
    · next agree => simp [agree]
    · next differ => simp [differ]
  simp only [KeptBy, found, Except.ok.injEq, Option.some.injEq, exists_eq_left', checked]

namespace Registry

variable {registry : Registry ν} {owner : Artifact ν} {version : String}

/-! ## The check -/

/-- The check for releases of one flag. -/
def lockstepFlag (owner : Artifact ν) (flag : Flag ν) : Except Error Unit :=
  match flag.pin? with
  | none => .ok ()
  | some pin =>
    if agrees pin.version owner.version then .ok ()
    else .error (.versionMismatch (document owner.version) (document pin.version)
      (document pin.artifact))

theorem checkLockstep_eq (owned : registry.artifact = some owner) :
    registry.checkLockstep = registry.flags.forM (lockstepFlag owner) := by
  rw [checkLockstep, owned]
  dsimp only
  rw [pinned, forM_filterMap]
  refine forM_congr fun flag _ => ?_
  rw [Flag.contractIn, lockstepFlag, Flag.pin?]
  cases flag.contract with
  | none => rfl
  | some contract =>
    by_cases exact : contract.mode = .exact
    · have held : (some contract).filter (fun contract => contract.mode = .exact) = some contract :=
        Option.filter_some_pos (by simpa using exact)
      cases alike : agrees contract.version owner.version with
      | true => simp [held, exact, alike]
      | false => simp [held, exact, alike]
    · simp [Option.filter_some, exact]

theorem lockstepFlag_eq_ok_iff (isVersion : document owner.version = .text version)
    {flag : Flag ν} : lockstepFlag owner flag = .ok () ↔ flag.InStep version := by
  have sameVersion (pin : Contract ν) :
      agrees pin.version owner.version = agrees pin.version (ofText version) := by
    rw [agrees, agrees, isVersion, document_ofText]
  unfold lockstepFlag Flag.InStep
  cases held : flag.pin? with
  | none => simp
  | some pin => simp [sameVersion]

theorem lockstepFlag_eq_error_iff (isVersion : document owner.version = .text version)
    {flag : Flag ν} {error : Error} :
    lockstepFlag owner flag = .error error ↔ ∃ pin, flag.pin? = some pin ∧
      ¬ flag.InStep version ∧ error =
        .versionMismatch (.text version) (document pin.version) (document pin.artifact) := by
  rw [← lockstepFlag_eq_ok_iff isVersion]
  unfold lockstepFlag
  rw [isVersion]
  cases held : flag.pin? with
  | none => simp
  | some pin =>
    simp only [Option.some.injEq, exists_eq_left']
    split
    · simp
    · simp [eq_comm]

theorem checkLockstep_eq_ok_iff (owned : registry.artifact = some owner)
    (isVersion : document owner.version = .text version) :
    registry.checkLockstep = .ok () ↔ ∀ flag ∈ registry.flags, flag.InStep version := by
  rw [checkLockstep_eq owned, forM_eq_ok_iff]
  simp only [lockstepFlag_eq_ok_iff isVersion]

theorem checkLockstep_eq_error_iff (owned : registry.artifact = some owner)
    (isVersion : document owner.version = .text version) {error : Error} :
    registry.checkLockstep = .error error ↔ ∃ before flag after pin,
      registry.flags = before ++ flag :: after ∧ (∀ earlier ∈ before, earlier.InStep version) ∧
        flag.pin? = some pin ∧ ¬ flag.InStep version ∧ error =
          .versionMismatch (.text version) (document pin.version) (document pin.artifact) := by
  rw [checkLockstep_eq owned, forM_eq_error_iff]
  simp only [lockstepFlag_eq_ok_iff isVersion, lockstepFlag_eq_error_iff isVersion]
  simp only [← exists_and_left]

/-! ## Checked tables -/

/-- What the checks on a table have shown of the registry that it becomes. -/
theorem checked_of_assemble {flags : List (Flag ν)} {defaults : Except Error (NameSet ν)}
    {conflicts : Except Error (List (Except Error (ν × ν)))} {artifact : Option (Artifact ν)}
    (made : assemble flags defaults conflicts artifact = .ok registry) :
    Distinct registry.flags ∧ checkTargets registry.flags = .ok () ∧
      registry.artifact = artifact := by
  refine ⟨(indexed_of_assemble made).distinct, ?_⟩
  simp only [assemble, bind_eq_ok_iff, pure_eq_ok] at made
  obtain ⟨_, _, _, _, _, _, _, _, _, targetsChecked, _, _, _, _, _, _, ⟨⟩⟩ := made
  exact ⟨targetsChecked, rfl⟩

/-! ## Declared names -/

theorem contains_of_checkRequested {names : List ν}
    (checked : registry.checkRequested names = .ok ()) :
    ∀ name ∈ names, same name defaultSetLabel = false → registry.contains name = true := by
  induction names with
  | nil => exact List.forall_mem_nil _
  | cons head rest ih =>
    unfold checkRequested at checked
    split at checked
    · next known =>
      refine List.forall_mem_cons.2 ⟨fun other => ?_, ih checked⟩
      rwa [other, Bool.false_or] at known
    · cases checked

/-- What a request enables is declared. -/
theorem contains_of_resolve (names : ∀ flag ∈ registry.flags, IsText flag.name)
    (targetsChecked : checkTargets registry.flags = .ok ()) {requested enabled : NameSet ν}
    {defaultFeatures : Bool} (resolved : registry.resolve requested defaultFeatures = .ok enabled) :
    ∀ name ∈ enabled.toList, registry.contains name = true := by
  -- Requested names have been looked up, and all other names come from the registry.
  have inherited : registry.Inherited (registry.contains · = true) := {
    texts := fun name declared => isText_of_isDeclared names declared
    names := fun flag present => contains_name present
    targets := isDeclared_of_checkTargets targetsChecked }
  obtain ⟨order, isSorted, resolved⟩ := bind_eq_ok_iff.1 resolved
  obtain ⟨_, checked, closed⟩ := bind_eq_ok_iff.1 resolved
  rw [NameSet.eq_of_sorted isSorted] at checked
  have initial := holds_initial inherited (contains_of_checkRequested checked) defaultFeatures
  exact (closure_safe inherited initial).of_ok closed

/-! ## Validation -/

/-- The flags with an exact release pin. -/
def exactlyPinned (registry : Registry ν) : NameSet ν :=
  .ofList ((registry.flags.filter fun flag => flag.pin?.isSome).map (·.name))

theorem exists_of_mem_exactlyPinned {name : ν} (present : name ∈ registry.exactlyPinned.toList) :
    ∃ flag ∈ registry.flags, flag.name = name ∧ ∃ pin, flag.pin? = some pin := by
  obtain ⟨flag, kept, isName⟩ := List.mem_map.1 (NameSet.of_mem_ofList present)
  obtain ⟨inTable, hasPin⟩ := List.mem_filter.1 kept
  exact ⟨flag, inTable, isName, Option.isSome_iff_exists.1 hasPin⟩

theorem mem_exactlyPinned (distinct : Distinct registry.flags) {flag : Flag ν} {pin : Contract ν}
    (present : flag ∈ registry.flags) (held : flag.pin? = some pin) :
    flag.name ∈ registry.exactlyPinned.toList := by
  have listed : flag.name ∈ (registry.flags.filter fun flag => flag.pin?.isSome).map (·.name) :=
    List.mem_map_of_mem (List.mem_filter.2 ⟨present, by simp [held]⟩)
  have inSet : flag.name ∈ registry.exactlyPinned :=
    NameSet.mem_ofList_iff.2 ⟨flag.name, listed, same_refl flag.name⟩
  -- The set holds a name that is the same, and it can only be the name of this flag.
  obtain ⟨name, kept, alike⟩ := NameSet.mem_iff.1 inSet
  obtain ⟨other, otherPresent, rfl, _⟩ := exists_of_mem_exactlyPinned kept
  rwa [distinct.eq_of_same otherPresent present alike] at kept

/-- The contracts in force on the flags with an exact release pin are the exact release pins. -/
theorem mem_laid_exactlyPinned (names : ∀ flag ∈ registry.flags, IsText flag.name)
    (distinct : Distinct registry.flags) {contract : Contract ν} :
    contract ∈ registry.laid registry.exactlyPinned .release ↔
      ∃ flag ∈ registry.flags, flag.pin? = some contract := by
  have inForce {flag : Flag ν} (present : flag ∈ registry.flags) :
      registry.contractFor flag.name .release = .ok flag.contract := by
    rw [contractFor, get_of_same distinct present (names flag present).isKey (same_refl flag.name)]
    rfl
  rw [mem_laid]
  constructor
  · rintro ⟨name, kept, found⟩
    obtain ⟨flag, present, rfl, pin, held⟩ := exists_of_mem_exactlyPinned kept
    have carried := (Flag.pin?_eq_some_iff.1 held).1
    rw [inForce present, carried] at found
    cases found
    exact ⟨flag, present, held⟩
  · rintro ⟨flag, present, held⟩
    refine ⟨flag.name, mem_exactlyPinned distinct present held, ?_⟩
    rw [inForce present, (Flag.pin?_eq_some_iff.1 held).1]

/-- One version is found of the artifact of every contract of a registry. -/
def DeclaresAll (registry : Registry ν) (declared : ν → Except Error (Option String))
    (version : String) : Prop :=
  ∀ flag ∈ registry.flags, ∀ contract,
    flag.contract = some contract ∨ flag.devContract = some contract →
      declared contract.artifact = .ok (some version)

/-- Every artifact that a contract of a registry is laid on, at one version. -/
def declaredAt (registry : Registry ν) (version : String) : Artifacts ν :=
  let carried := registry.flags.flatMap fun flag => flag.contract.toList ++ flag.devContract.toList
  (carried.map (·.artifact)).map fun artifact => (artifact, version)

/-- Artifacts that can be looked up can all be declared at one version. -/
theorem declaresAll_declaredAt (keys : ∀ flag ∈ registry.flags, ∀ contract,
    flag.contract = some contract ∨ flag.devContract = some contract →
      isKey contract.artifact = true) (version : String) :
    registry.DeclaresAll (registry.declaredAt version).declared version := by
  intro flag present contract carried
  have listed : contract ∈ registry.flags.flatMap fun flag =>
      flag.contract.toList ++ flag.devContract.toList := by
    refine List.mem_flatMap.2 ⟨flag, present, ?_⟩
    simpa [eq_comm] using carried
  rw [Artifacts.declared, key, if_pos (keys flag present contract carried)]
  have found : (registry.declaredAt version).version? contract.artifact = some version :=
    Artifacts.version?_map (fun _ _ _ => rfl) (List.mem_map_of_mem listed)
  exact congrArg Except.ok found

/-- Where one version is found of all artifacts, the validation in a release of flags with no
contracts but exact pins wants the pins to be on that version. -/
theorem validate_release_iff (names : ∀ flag ∈ registry.flags, IsText flag.name)
    {declared : ν → Except Error (Option String)} (all : registry.DeclaresAll declared version)
    {capabilities : NameSet ν}
    (present : ∀ name ∈ capabilities.toList, registry.contains name = true)
    (pins : ∀ contract ∈ registry.laid capabilities .release, contract.mode = .exact) :
    registry.validate capabilities declared .release = .ok () ↔
      ∀ contract ∈ registry.laid capabilities .release,
        agrees contract.version (ofText version) = true := by
  rw [validate_eq_ok_iff_keptBy names present]
  refine forall₂_congr fun contract held => ?_
  obtain ⟨name, _, found⟩ := mem_laid.1 held
  obtain ⟨flag, inTable, carried⟩ := carried_of_contractFor found
  exact Contract.keptBy_iff_agrees (pins contract held) (all flag inTable contract carried)

/-- Where one version is found of all artifacts, all flags with an exact pin pass the validation in
a release exactly when all pins are on that version. -/
theorem validate_exactlyPinned_iff (names : ∀ flag ∈ registry.flags, IsText flag.name)
    (distinct : Distinct registry.flags) {declared : ν → Except Error (Option String)}
    (all : registry.DeclaresAll declared version) :
    registry.validate registry.exactlyPinned declared .release = .ok () ↔
      ∀ flag ∈ registry.flags, flag.InStep version := by
  have present : ∀ name ∈ registry.exactlyPinned.toList, registry.contains name = true := by
    intro name inSet
    obtain ⟨flag, inTable, rfl, _⟩ := exists_of_mem_exactlyPinned inSet
    exact contains_name inTable
  have pins : ∀ contract ∈ registry.laid registry.exactlyPinned .release,
      contract.mode = .exact := by
    intro contract held
    obtain ⟨flag, _, isPin⟩ := (mem_laid_exactlyPinned names distinct).1 held
    exact (Flag.pin?_eq_some_iff.1 isPin).2
  rw [validate_release_iff names all present pins]
  constructor
  · intro agree flag inTable pin isPin
    exact agree pin ((mem_laid_exactlyPinned names distinct).2 ⟨flag, inTable, isPin⟩)
  · intro inStep contract held
    obtain ⟨flag, inTable, isPin⟩ := (mem_laid_exactlyPinned names distinct).1 held
    exact inStep flag inTable contract isPin

/-- Where one version is found of all artifacts and all pins are on it, whatever a request enables
passes the validation in a release if it carries no contracts but exact pins. -/
theorem validate_of_inStep (names : ∀ flag ∈ registry.flags, IsText flag.name)
    (targetsChecked : checkTargets registry.flags = .ok ())
    {declared : ν → Except Error (Option String)} (all : registry.DeclaresAll declared version)
    (inStep : ∀ flag ∈ registry.flags, flag.InStep version) {requested enabled : NameSet ν}
    {defaultFeatures : Bool} (resolved : registry.resolve requested defaultFeatures = .ok enabled)
    (pins : ∀ contract ∈ registry.laid enabled .release, contract.mode = .exact) :
    registry.validate enabled declared .release = .ok () := by
  have present := contains_of_resolve names targetsChecked resolved
  refine (validate_release_iff names all present pins).2 fun contract held => ?_
  obtain ⟨name, _, found⟩ := mem_laid.1 held
  obtain ⟨flag, inTable, carried⟩ := contractIn_of_contractFor found
  exact inStep flag inTable contract (Flag.pin?_eq_some_iff.2 ⟨carried, pins contract held⟩)

/-! ## Result -/

/-- The check for releases of a registry whose owner has a text as version. Where the artifact of
every contract is declared at that version, it passes exactly when the validation of all flags with
an exact pin does in a release, and then every request passes that validation too if no other
contracts are in force on what it enables. Otherwise the check reports the first flag whose exact
pin is on another version. -/
theorem checkLockstep_exact (flags : List (Flag ν)) (defaults : Except Error (NameSet ν))
    (conflicts : Except Error (List (Except Error (ν × ν)))) (owner : Artifact ν)
    (registry : Registry ν) (made : assemble flags defaults conflicts (some owner) = .ok registry)
    (names : ∀ flag ∈ registry.flags, IsText flag.name) (version : String)
    (isVersion : document owner.version = .text version) :
    (∀ declared, registry.DeclaresAll declared version →
      (registry.checkLockstep = .ok () ↔
        registry.validate registry.exactlyPinned declared .release = .ok ()) ∧
      (registry.checkLockstep = .ok () → ∀ requested defaultFeatures enabled,
        registry.resolve requested defaultFeatures = .ok enabled →
          (∀ contract ∈ registry.laid enabled .release, contract.mode = .exact) →
            registry.validate enabled declared .release = .ok ())) ∧
    ∀ error, registry.checkLockstep = .error error ↔ ∃ before flag after pin,
      registry.flags = before ++ flag :: after ∧ (∀ earlier ∈ before, earlier.InStep version) ∧
        flag.pin? = some pin ∧ ¬ flag.InStep version ∧ error =
          .versionMismatch (.text version) (document pin.version) (document pin.artifact) := by
  obtain ⟨distinct, targetsChecked, owned⟩ := checked_of_assemble made
  have passes := checkLockstep_eq_ok_iff owned isVersion
  refine ⟨fun declared all => ⟨?_, ?_⟩, fun error => checkLockstep_eq_error_iff owned isVersion⟩
  · rw [passes, validate_exactlyPinned_iff names distinct all]
  · intro passed requested defaultFeatures enabled resolved pins
    exact validate_of_inStep names targetsChecked all (passes.1 passed) resolved pins

/-- A registry with one exact pin, on a companion that another flag implies. -/
def companions (version : String) : Registry String where
  flags :=
    [{ name := "std", implies := .ofList ["derive"] },
     { name := "derive", contract := some ⟨"serde_derive", "1.0.139", .exact⟩ }]
  conflicts := []
  artifact := some ⟨"serde", version⟩

/-- A registry in step with its owner, and one whose owner has been released once more. -/
theorem checkLockstep_exact_companions :
    (companions "1.0.139").checkLockstep = .ok () ∧
      (companions "1.0.139").validate (companions "1.0.139").exactlyPinned
        ((companions "1.0.139").declaredAt "1.0.139").declared .release = .ok () ∧
      (companions "1.0.139").validate (.ofList ["derive", "std"])
        ((companions "1.0.139").declaredAt "1.0.139").declared .release = .ok () ∧
      (companions "1.0.140").checkLockstep =
        .error (.versionMismatch (.text "1.0.140") (.text "1.0.139") (.text "serde_derive")) := by
  have made (version : String) : assemble (companions version).flags (.ok ∅) (.ok [])
      (some ⟨"serde", version⟩) = .ok (companions version) := by rfl
  have texts (version : String) := calledByTexts (companions version)
  have outcome (version : String) := checkLockstep_exact (companions version).flags _ _ _
    (companions version) (made version) (texts version).names version rfl
  have all : (companions "1.0.139").DeclaresAll
      ((companions "1.0.139").declaredAt "1.0.139").declared "1.0.139" :=
    declaresAll_declaredAt (fun _ _ _ _ => rfl) "1.0.139"
  obtain ⟨passes, every⟩ := (outcome "1.0.139").1 _ all
  have inStep : (companions "1.0.139").checkLockstep = .ok () := by decide
  refine ⟨inStep, passes.1 inStep, ?_, ?_⟩
  · refine every inStep (.ofList ["std"]) false _ rfl ?_
    decide
  · refine ((outcome "1.0.140").2 _).2 ⟨[_], _, [], _, rfl, ?_, rfl, ?_, rfl⟩
    · simp [Flag.InStep, Flag.pin?]
    · exact Flag.not_inStep_iff.2 ⟨_, rfl, rfl⟩

end Registry

end FeatureResolution
