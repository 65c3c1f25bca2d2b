import FeatureResolution.Proofs.CompatibleRange
import FeatureResolution.Proofs.FlagLookup
import FeatureResolution.Proofs.RequestSafety
import Mathlib.Data.List.MinMax

/-!
# When a build can be pinned at all

The contracts in force on the flags of a build each lay a condition on one artifact, and the
validation holds them against the declared versions one by one. They are never compared with each
other. Still the contracts on one artifact have to agree for any version to keep them all
(`Contract.Consistent`): exact pins on one text, which lies in every range, and, where there is no
pin, ranges of one major number.

1. What one version text keeps is consistent (`Contract.consistent_of_kept`).
2. Consistent contracts are kept by one text, which they hold themselves: the pinned one, or the one
   with the largest minor number (`Contract.fitting`, `Contract.Consistent.kept`).
3. Whether versions pass the validation depends, for each artifact, on the version declared of it
   alone (`Registry.validate_eq_ok_iff_kept`), so the artifacts can be looked at one by one.

Result: the versions of a build can be declared so that the validation passes exactly when for every
artifact the contracts in force on it are consistent.
-/

namespace FeatureResolution

open Label

variable {ν : Type} [Label ν]

/-! ## Versions -/

namespace Version

/-- Two texts are versions of one major number. -/
def SameMajor (first second : String) : Prop :=
  ∃ one other, parse first = .ok one ∧ parse second = .ok other ∧ one.major = other.major

/-- What is compatible with two versions makes them versions of one major number. -/
theorem Compatible.sameMajor {found first second : String} (one : Compatible found first)
    (other : Compatible found second) : SameMajor first second := by
  obtain ⟨_, needed, foundRead, firstRead, satisfies⟩ := one
  obtain ⟨_, otherNeeded, foundAgain, secondRead, otherSatisfies⟩ := other
  cases foundRead.symm.trans foundAgain
  exact ⟨needed, otherNeeded, firstRead, secondRead, satisfies.1.symm.trans otherSatisfies.1⟩

/-- The minor number of a version text, zero where it is none. -/
def minorOf (text : String) : Nat :=
  match parse text with
  | .ok version => version.minor
  | .error _ => 0

/-- Of two versions of one major number the one with the larger minor number may stand in for the
other. -/
theorem SameMajor.compatible {first second : String} (same : SameMajor first second)
    (largest : minorOf second ≤ minorOf first) : Compatible first second := by
  obtain ⟨one, other, firstRead, secondRead, majors⟩ := same
  refine (compatible_iff firstRead secondRead).2 ⟨majors, ?_⟩
  rw [minorOf, secondRead, minorOf, firstRead] at largest
  exact largest

end Version

namespace Contract

/-! ## Contracts that were read -/

/-- Which version texts keep a contract that was read. -/
theorem Read.check_eq_ok_iff {contract : Contract ν} (read : contract.Read)
    {found : String} : contract.check (ofText found) = .ok () ↔
      (contract.mode = .exact ∧ found = shown contract.version) ∨
        (contract.mode = .compatible ∧ Version.Compatible found (shown contract.version)) := by
  obtain ⟨exact | compatible, isText, _⟩ := read.sound
  · have isPin : pin contract.artifact (shown contract.version) = contract := by
      rw [pin, ← isText, ← exact]
    have admits : (pin contract.artifact (shown contract.version)).Admits found ↔
        found = shown contract.version := pin_admits_iff
    rw [isPin, Admits] at admits
    simp [exact, admits]
  · have isRange : range contract.artifact (shown contract.version) = contract := by
      rw [range, ← isText, ← compatible]
    have admits : (range contract.artifact (shown contract.version)).Admits found ↔
        Version.Compatible found (shown contract.version) := range_admits_iff
    rw [isRange, Admits] at admits
    simp [compatible, admits]

/-! ## Contracts on one artifact -/

variable {contracts : List (Contract ν)}

/-- Contracts on one artifact agree with each other: all exact pins name one text, which may stand
in for what every range requires, or there is no pin and all ranges are of one major number. -/
inductive Consistent (contracts : List (Contract ν)) : Prop
  | pinned {pin : Contract ν} : pin ∈ contracts → pin.mode = .exact →
      (∀ other ∈ contracts, other.mode = .exact → shown other.version = shown pin.version) →
      (∀ range ∈ contracts, range.mode = .compatible →
        Version.Compatible (shown pin.version) (shown range.version)) → Consistent contracts
  | ranged : (∀ contract ∈ contracts, contract.mode ≠ .exact) →
      (∀ first ∈ contracts, ∀ second ∈ contracts, first.mode = .compatible →
        second.mode = .compatible →
          Version.SameMajor (shown first.version) (shown second.version)) → Consistent contracts

/-- Contracts that one version text keeps are consistent. -/
theorem consistent_of_kept (read : ∀ contract ∈ contracts, contract.Read) {found : String}
    (kept : ∀ contract ∈ contracts, contract.check (ofText found) = .ok ()) :
    Consistent contracts := by
  have pinKept : ∀ pin ∈ contracts, pin.mode = .exact → found = shown pin.version := by
    intro pin present exact
    cases (read pin present).check_eq_ok_iff.1 (kept pin present) with
    | inl pinned => exact pinned.2
    | inr inRange => cases exact.symm.trans inRange.1
  have rangeKept : ∀ range ∈ contracts, range.mode = .compatible →
      Version.Compatible found (shown range.version) := by
    intro range present compatible
    cases (read range present).check_eq_ok_iff.1 (kept range present) with
    | inl pinned => cases compatible.symm.trans pinned.1
    | inr inRange => exact inRange.2
  by_cases hasPin : ∃ pin ∈ contracts, pin.mode = .exact
  · obtain ⟨pin, present, exact⟩ := hasPin
    have isFound := pinKept pin present exact
    refine .pinned present exact (fun other otherPresent otherExact => ?_) ?_
    · rw [← isFound, pinKept other otherPresent otherExact]
    · rw [← isFound]
      exact rangeKept
  · refine .ranged (fun contract present exact => hasPin ⟨contract, present, exact⟩) ?_
    intro first firstPresent second secondPresent firstRange secondRange
    exact (rangeKept first firstPresent firstRange).sameMajor
      (rangeKept second secondPresent secondRange)

/-- A version text for the artifact of some contracts: the one that is pinned, and without a pin the
one with the largest minor number. -/
def fitting (contracts : List (Contract ν)) : String :=
  match contracts.find? fun contract => contract.mode = .exact with
  | some pin => shown pin.version
  | none => match contracts.argmax fun contract => Version.minorOf (shown contract.version) with
    | some largest => shown largest.version
    | none => ""

/-- Consistent contracts are all kept by the version text that they are fitted with. -/
theorem Consistent.kept (consistent : Consistent contracts)
    (read : ∀ contract ∈ contracts, contract.Read) :
    ∀ contract ∈ contracts, contract.check (ofText (fitting contracts)) = .ok () := by
  intro contract present
  rw [(read contract present).check_eq_ok_iff, fitting]
  cases consistent with
  | @pinned pin pinPresent exact samePin inRange =>
    cases found : contracts.find? fun contract => contract.mode = .exact with
    | none => exact absurd exact (by simpa using List.find?_eq_none.1 found pin pinPresent)
    | some other =>
      have otherExact : other.mode = .exact := by simpa using List.find?_some found
      have isPin := samePin other (List.mem_of_find?_eq_some found) otherExact
      dsimp only
      rw [isPin]
      cases (read contract present).sound.1 with
      | inl exact => exact .inl ⟨exact, (samePin contract present exact).symm⟩
      | inr compatible => exact .inr ⟨compatible, inRange contract present compatible⟩
  | ranged noPin sameMajor =>
    have noneFound : (contracts.find? fun contract => contract.mode = .exact) = none :=
      List.find?_eq_none.2 fun contract present => by simpa using noPin contract present
    have isRange : ∀ contract ∈ contracts, contract.mode = .compatible := fun contract present =>
      (read contract present).sound.1.resolve_left (noPin contract present)
    rw [noneFound]
    dsimp only
    cases found : contracts.argmax fun contract => Version.minorOf (shown contract.version) with
    | none =>
      rw [List.argmax_eq_none.1 found] at present
      cases present
    | some largest =>
      have largestPresent := List.argmax_mem found
      have below := List.le_of_mem_argmax present found
      have alike := sameMajor largest largestPresent contract present
        (isRange largest largestPresent) (isRange contract present)
      exact .inr ⟨isRange contract present, alike.compatible below⟩

end Contract

/-! ## Declared versions -/

namespace Artifacts

theorem version?_congr {first second : ν} (alike : same first second = true)
    (artifacts : Artifacts ν) : artifacts.version? first = artifacts.version? second := by
  induction artifacts with
  | nil => rfl
  | cons entry rest ih =>
    obtain ⟨known, version⟩ := entry
    rw [version?, version?, same_congr alike, ih]

/-- A version that is told for each of some artifacts is found under each of them. -/
theorem version?_map {version : ν → String}
    (alike : ∀ first second, same first second = true → version first = version second)
    {artifacts : List ν} {artifact : ν} (present : artifact ∈ artifacts) :
    version? artifact (artifacts.map fun known => (known, version known)) =
      some (version artifact) := by
  induction artifacts with
  | nil => cases present
  | cons head rest ih =>
    rw [List.map_cons, version?]
    by_cases here : same head artifact = true
    · rw [if_pos here, alike head artifact here]
    · rw [if_neg here]
      cases List.mem_cons.1 present with
      | inl isHead => exact absurd (isHead ▸ same_refl head) here
      | inr later => exact ih later

end Artifacts

namespace Contract

/-- A look-up finds a version of the artifact of a contract that keeps it. -/
def KeptBy (contract : Contract ν) (declared : ν → Except Error (Option String)) : Prop :=
  ∃ found, declared contract.artifact = .ok (some found) ∧ contract.check (ofText found) = .ok ()

/-- A version is declared of the artifact of a contract, and keeps it. -/
def KeptIn (contract : Contract ν) (artifacts : Artifacts ν) : Prop :=
  ∃ found, artifacts.version? contract.artifact = some found ∧
    contract.check (ofText found) = .ok ()

/-- What is declared of an artifact is found where it can be looked up. -/
theorem keptBy_declared_iff {contract : Contract ν} (isKey : isKey contract.artifact = true)
    {artifacts : Artifacts ν} :
    contract.KeptBy artifacts.declared ↔ contract.KeptIn artifacts := by
  have declared : artifacts.declared contract.artifact =
      .ok (artifacts.version? contract.artifact) := by
    rw [Artifacts.declared, key, if_pos isKey]
    rfl
  simp only [KeptBy, KeptIn, declared, Except.ok.injEq]

end Contract

/-! ## Contracts in force -/

namespace Registry

variable {registry : Registry ν} {capabilities : NameSet ν} {mode : BuildMode}

/-- The contracts in force on some flags in a build mode. -/
def laid (registry : Registry ν) (capabilities : NameSet ν) (mode : BuildMode) :
    List (Contract ν) :=
  capabilities.toList.filterMap fun name => (registry.contractFor name mode).toOption.join

/-- The contracts in force on some flags that are laid on one artifact. -/
def laidOn (registry : Registry ν) (capabilities : NameSet ν) (mode : BuildMode) (artifact : ν) :
    List (Contract ν) :=
  (registry.laid capabilities mode).filter fun contract => same contract.artifact artifact

theorem mem_laid {contract : Contract ν} :
    contract ∈ registry.laid capabilities mode ↔
      ∃ name ∈ capabilities.toList, registry.contractFor name mode = .ok (some contract) := by
  rw [laid, List.mem_filterMap]
  refine exists_congr fun name => and_congr_right fun _ => ?_
  cases registry.contractFor name mode with
  | error error => simp [Except.toOption]
  | ok held => simp [Except.toOption]

theorem mem_laidOn {artifact : ν} {contract : Contract ν} :
    contract ∈ registry.laidOn capabilities mode artifact ↔
      contract ∈ registry.laid capabilities mode ∧ same contract.artifact artifact = true := by
  rw [laidOn, List.mem_filter]

/-- Artifacts that are the same have the same contracts laid on them. -/
theorem laidOn_congr {first second : ν} (alike : same first second = true) :
    registry.laidOn capabilities mode first = registry.laidOn capabilities mode second :=
  List.filter_congr fun contract _ => same_congr alike contract.artifact

/-- A registry that calls its flags, and the artifacts of their contracts, by texts. -/
structure CalledByTexts (registry : Registry ν) : Prop where
  names : ∀ flag ∈ registry.flags, IsText flag.name
  artifacts : ∀ flag ∈ registry.flags, ∀ contract,
    flag.contract = some contract ∨ flag.devContract = some contract → IsText contract.artifact

/-- Where the labels are texts, everything is called by texts. -/
theorem calledByTexts (registry : Registry String) : registry.CalledByTexts where
  names _ _ := rfl
  artifacts _ _ _ _ := rfl

/-- A contract in force is in force on some flag. -/
theorem contractIn_of_contractFor {name : ν} {contract : Contract ν}
    (found : registry.contractFor name mode = .ok (some contract)) :
    ∃ flag ∈ registry.flags, flag.contractIn mode = some contract := by
  obtain ⟨flag, lookedUp, inForce⟩ := bind_eq_ok_iff.1 found
  exact ⟨flag, mem_of_get lookedUp, Except.ok.inj inForce⟩

/-- A contract in force is one that a flag carries. -/
theorem carried_of_contractFor {name : ν} {contract : Contract ν}
    (found : registry.contractFor name mode = .ok (some contract)) :
    ∃ flag ∈ registry.flags, flag.contract = some contract ∨ flag.devContract = some contract := by
  obtain ⟨flag, present, inForce⟩ := contractIn_of_contractFor found
  exact ⟨flag, present, Flag.carries_of_contractIn inForce⟩

/-- A flag passes its check when it is declared and the contract in force on it, if there is one, is
kept. -/
theorem validateFlag_eq_ok_iff {declared : ν → Except Error (Option String)} {name : ν} :
    registry.validateFlag declared mode name = .ok () ↔ ∃ flag, registry.get name = .ok flag ∧
      ∀ contract, flag.contractIn mode = some contract → contract.KeptBy declared := by
  rw [validateFlag, contractFor]
  cases registry.get name with
  | error error => simp
  | ok flag =>
    simp only [ok_bind, pure_bind, Except.ok.injEq, exists_eq_left']
    cases flag.contractIn mode with
    | none => simp
    | some contract =>
      simp only [bind_eq_ok_iff, Option.some.injEq, forall_eq', Contract.KeptBy]
      constructor
      · rintro ⟨found, isFound, passes⟩
        cases found with
        | none => cases passes
        | some version => exact ⟨version, isFound, passes⟩
      · rintro ⟨version, isFound, passes⟩
        exact ⟨some version, isFound, passes⟩

theorem validate_eq_ok_iff_flags {declared : ν → Except Error (Option String)} :
    registry.validate capabilities declared mode = .ok () ↔
      (∃ order, capabilities.sorted = .ok order) ∧
        ∀ name ∈ capabilities.toList, registry.validateFlag declared mode name = .ok () := by
  rw [validate, bind_eq_ok_iff]
  simp only [forM_eq_ok_iff]
  constructor
  · rintro ⟨order, isSorted, passes⟩
    rw [NameSet.eq_of_sorted isSorted] at passes
    exact ⟨⟨order, isSorted⟩, passes⟩
  · rintro ⟨⟨order, isSorted⟩, passes⟩
    refine ⟨order, isSorted, ?_⟩
    rwa [NameSet.eq_of_sorted isSorted]

/-- The validation of declared flags, called by texts, passes when every contract in force on them
is kept. -/
theorem validate_eq_ok_iff_keptBy (names : ∀ flag ∈ registry.flags, IsText flag.name)
    (present : ∀ name ∈ capabilities.toList, registry.contains name = true)
    {declared : ν → Except Error (Option String)} :
    registry.validate capabilities declared mode = .ok () ↔
      ∀ contract ∈ registry.laid capabilities mode, contract.KeptBy declared := by
  have nameTexts : ∀ name ∈ capabilities.toList, IsText name := fun name inSet =>
    isText_of_isDeclared names (present name inSet)
  have ordered : ∃ order, capabilities.sorted = .ok order := ⟨_, ordered_of_isText nameTexts⟩
  simp only [validate_eq_ok_iff_flags, ordered, true_and, validateFlag_eq_ok_iff]
  constructor
  · intro passes contract held
    obtain ⟨name, inSet, found⟩ := mem_laid.1 held
    obtain ⟨flag, lookedUp, inForce⟩ := bind_eq_ok_iff.1 found
    obtain ⟨_, again, kept⟩ := passes name inSet
    cases lookedUp.symm.trans again
    exact kept contract (Except.ok.inj inForce)
  · intro kept name inSet
    obtain ⟨flag, isFound⟩ := Option.isSome_iff_exists.1 (present name inSet)
    have lookedUp : registry.get name = .ok flag := by
      rw [get, if_pos (nameTexts name inSet).isKey, isFound]
    refine ⟨flag, lookedUp, fun contract inForce => kept contract ?_⟩
    exact mem_laid.2 ⟨name, inSet, bind_eq_ok_iff.2 ⟨flag, lookedUp, congrArg _ inForce⟩⟩

theorem validate_eq_ok_iff_kept (texts : registry.CalledByTexts)
    (present : ∀ name ∈ capabilities.toList, registry.contains name = true)
    {artifacts : Artifacts ν} :
    registry.validate capabilities artifacts.declared mode = .ok () ↔
      ∀ contract ∈ registry.laid capabilities mode, contract.KeptIn artifacts := by
  rw [validate_eq_ok_iff_keptBy texts.names present]
  refine forall₂_congr fun contract held => Contract.keptBy_declared_iff ?_
  obtain ⟨name, _, found⟩ := mem_laid.1 held
  obtain ⟨flag, inTable, carried⟩ := carried_of_contractFor found
  exact (texts.artifacts flag inTable contract carried).isKey

/-! ## Versions for all artifacts -/

/-- A version for each artifact that a contract in force is laid on. -/
def fittingVersions (registry : Registry ν) (capabilities : NameSet ν) (mode : BuildMode) :
    Artifacts ν :=
  ((registry.laid capabilities mode).map (·.artifact)).map fun artifact =>
    (artifact, Contract.fitting (registry.laidOn capabilities mode artifact))

theorem PinsRead.laidOn (pinsRead : registry.PinsRead) {artifact : ν} :
    ∀ contract ∈ registry.laidOn capabilities mode artifact, contract.Read := by
  intro contract present
  obtain ⟨name, _, found⟩ := mem_laid.1 (mem_laidOn.1 present).1
  obtain ⟨flag, inTable, carried⟩ := carried_of_contractFor found
  exact pinsRead flag inTable contract carried

/-- Declared versions keep the contracts on one artifact by one version. -/
theorem consistent_laidOn (pinsRead : registry.PinsRead) {artifacts : Artifacts ν}
    (kept : ∀ contract ∈ registry.laid capabilities mode, contract.KeptIn artifacts)
    (artifact : ν) : Contract.Consistent (registry.laidOn capabilities mode artifact) := by
  have keptHere : ∀ contract ∈ registry.laidOn capabilities mode artifact,
      contract.check (ofText ((artifacts.version? artifact).getD "")) = .ok () := by
    intro contract present
    obtain ⟨held, alike⟩ := mem_laidOn.1 present
    obtain ⟨found, declared, passes⟩ := kept contract held
    rw [Artifacts.version?_congr alike] at declared
    rw [declared]
    exact passes
  exact Contract.consistent_of_kept pinsRead.laidOn keptHere

/-- Where the contracts on each artifact are consistent, the fitting versions keep them all. -/
theorem kept_fittingVersions (pinsRead : registry.PinsRead)
    (consistent : ∀ artifact, Contract.Consistent (registry.laidOn capabilities mode artifact)) :
    ∀ contract ∈ registry.laid capabilities mode,
      contract.KeptIn (registry.fittingVersions capabilities mode) := by
  intro contract held
  refine ⟨Contract.fitting (registry.laidOn capabilities mode contract.artifact), ?_, ?_⟩
  · refine Artifacts.version?_map (fun first second alike => ?_) (List.mem_map_of_mem held)
    rw [laidOn_congr alike]
  · exact (consistent contract.artifact).kept pinsRead.laidOn contract
      (mem_laidOn.2 ⟨held, same_refl contract.artifact⟩)

theorem pinsRead_of_ofTable {table : Document} (made : ofTable table = .ok registry) :
    registry.PinsRead := by
  intro flag present contract carried
  obtain ⟨_, _, declaration⟩ := declaration_of_ofTable made
  obtain ⟨_, _, declared, flagRead, _, sameContract, sameDevContract⟩ := declaration flag present
  rw [sameContract, sameDevContract] at carried
  obtain ⟨_, _, _, _, _, artifact, _, parsed⟩ := parts_of_read flagRead
  obtain ⟨requirement, contractParsed⟩ := parsed contract carried
  exact ⟨artifact, requirement, contractParsed⟩

/-! ## Result -/

/-- In a registry made of a table, with texts as names, versions of the artifacts can be declared so
that the validation of some flags passes exactly when on every artifact the contracts in force on
these flags are consistent. -/
theorem exists_validate_iff_consistent (table : Document) (registry : Registry ν)
    (made : ofTable table = .ok registry) (texts : registry.CalledByTexts)
    (capabilities : NameSet ν)
    (declared : ∀ name ∈ capabilities.toList, registry.contains name = true) (mode : BuildMode) :
    (∃ artifacts : Artifacts ν,
        registry.validate capabilities artifacts.declared mode = .ok ()) ↔
      ∀ artifact, Contract.Consistent (registry.laidOn capabilities mode artifact) := by
  have pinsRead := pinsRead_of_ofTable made
  constructor
  · rintro ⟨artifacts, passes⟩
    exact consistent_laidOn pinsRead ((validate_eq_ok_iff_kept texts declared).1 passes)
  · intro consistent
    refine ⟨registry.fittingVersions capabilities mode, ?_⟩
    exact (validate_eq_ok_iff_kept texts declared).2 (kept_fittingVersions pinsRead consistent)

/-- Two flags that require one artifact: one exactly, the other in a range, which a development
build moves to the next major version. -/
def sharedPinTable : Document :=
  .map [(.text "flags", .list [
    .map [(.text "name", .text "serde"), (.text "artifact", .text "derive"),
      (.text "requirement", .text "=1.4.2")],
    .map [(.text "name", .text "alloc"), (.text "artifact", .text "derive"),
      (.text "requirement", .text "^1.2"), (.text "dev_requirement", .text "2.0")]])]

/-- The registry that this table becomes. -/
def sharedPins : Registry String where
  flags :=
    [{ name := "serde", contract := some ⟨"derive", "1.4.2", .exact⟩ },
     { name := "alloc", contract := some ⟨"derive", "1.2", .compatible⟩,
       devContract := some ⟨"derive", "2.0", .compatible⟩ }]
  conflicts := []
  artifact := none

theorem exists_validate_iff_consistent_sharedPins :
    ofTable sharedPinTable = .ok sharedPins ∧ sharedPins.CalledByTexts ∧
      (∀ name ∈ (NameSet.ofList ["serde", "alloc"]).toList, sharedPins.contains name = true) ∧
      (∀ artifact, Contract.Consistent
        (sharedPins.laidOn (.ofList ["serde", "alloc"]) .release artifact)) ∧
      ¬ ∃ artifacts : Artifacts String,
        sharedPins.validate (.ofList ["serde", "alloc"]) artifacts.declared .dev = .ok () := by
  have made : ofTable sharedPinTable = .ok sharedPins := rfl
  have texts := calledByTexts sharedPins
  have declared : ∀ name ∈ (NameSet.ofList ["serde", "alloc"]).toList,
      sharedPins.contains name = true := by
    decide
  have pinnable (mode : BuildMode) :=
    exists_validate_iff_consistent sharedPinTable sharedPins made texts _ declared mode
  have passes : sharedPins.validate (.ofList ["serde", "alloc"])
      (Artifacts.declared [("derive", "1.4.2")]) .release = .ok () := by
    decide
  refine ⟨made, texts, declared, (pinnable .release).1 ⟨_, passes⟩, fun pinned => ?_⟩
  -- The pinned version is of another major number than the range of a development build.
  have laid : sharedPins.laidOn (.ofList ["serde", "alloc"]) .dev "derive" =
      [⟨"derive", "2.0", .compatible⟩, ⟨"derive", "1.4.2", .exact⟩] := by
    decide
  have consistent := (pinnable .dev).1 pinned "derive"
  rw [laid] at consistent
  cases consistent with
  | @pinned pin present exact _ inRange =>
    have pinIs : pin = ⟨"derive", "1.4.2", .exact⟩ := by
      rcases List.mem_cons.1 present with rfl | present
      · cases exact
      · exact List.mem_singleton.1 present
    subst pinIs
    have compatible := inRange ⟨"derive", "2.0", .compatible⟩ List.mem_cons_self rfl
    have pinRead : Version.parse "1.4.2" = .ok ⟨1, 4, 2⟩ := rfl
    have rangeRead : Version.parse "2.0" = .ok ⟨2, 0, 0⟩ := rfl
    have satisfies := (Version.compatible_iff pinRead rangeRead).1 compatible
    exact absurd satisfies.1 (by decide)
  | ranged noPin _ => exact noPin ⟨"derive", "1.4.2", .exact⟩ (by simp) rfl

end Registry

end FeatureResolution
