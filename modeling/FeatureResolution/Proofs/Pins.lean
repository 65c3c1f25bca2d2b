import FeatureResolution.Pins
import FeatureResolution.Proofs.Closure
import FeatureResolution.Proofs.RequirementText

/-!
# Which pin is reported

A contract that was read from a requirement pins an exact text or a range above a version
(`Contract.Read`). Declared versions keep it in one of two ways (`Contract.Kept`), and there are
three ways not to (`Contract.Violation`). A flag is unmet when the contract in force on it is not
kept (`Unmet`).

The validation of enabled flags passes when none of them is unmet and otherwise reports the unmet
flag with the least name (`validate_eq_ok_iff`, `validate_eq_error_iff`). Said of the declared
flags and of the contracts that they carry, this is the result.
-/

namespace FeatureResolution

/-- One version may stand in for another: both are versions, of one major number, and the minor
number of the first is not below. -/
def Version.Compatible (found required : String) : Prop :=
  ∃ declared needed, Version.parse found = .ok declared ∧ Version.parse required = .ok needed ∧
    declared.Satisfies needed

theorem Version.compatible_iff {found required : String} {declared needed : Version}
    (foundRead : Version.parse found = .ok declared)
    (requiredRead : Version.parse required = .ok needed) :
    Version.Compatible found required ↔ declared.Satisfies needed := by
  constructor
  · rintro ⟨_, _, foundAgain, requiredAgain, satisfies⟩
    cases foundRead.symm.trans foundAgain
    cases requiredRead.symm.trans requiredAgain
    exact satisfies
  · intro satisfies
    exact ⟨declared, needed, foundRead, requiredRead, satisfies⟩

namespace Contract

/-- A contract that a requirement text has been read to, on an artifact called by any label. -/
def Read {ν : Type} [Label ν] (contract : Contract ν) : Prop :=
  ∃ artifact requirement, parse artifact requirement = .ok contract

/-- How declared versions do not keep a contract on a flag, and what is reported then. -/
inductive Violation (artifacts : Artifacts String) (flag : String) (contract : Contract String) :
    Error → Prop
  | missing : artifacts.version? contract.artifact = none →
      Violation artifacts flag contract
        (.missingArtifact (.text flag) (.text contract.artifact))
  | mismatch {found : String} : artifacts.version? contract.artifact = some found →
      contract.mode = .exact → found ≠ contract.version →
      Violation artifacts flag contract
        (.versionMismatch (.text contract.version) (.text found) (.text contract.artifact))
  | incompatible {found : String} : artifacts.version? contract.artifact = some found →
      contract.mode = .compatible → ¬ Version.Compatible found contract.version →
      Violation artifacts flag contract
        (.incompatibleVersion (.text contract.version) (.text found) (.text contract.artifact))

/-- How declared versions keep a contract: an exact pin by the very text that it names, and a range
by a version that may stand in for the one above which it lies. -/
inductive Kept (artifacts : Artifacts String) (contract : Contract String) : Prop
  | exact : artifacts.version? contract.artifact = some contract.version →
      contract.mode = .exact → Kept artifacts contract
  | compatible {found : String} : artifacts.version? contract.artifact = some found →
      contract.mode = .compatible → Version.Compatible found contract.version →
      Kept artifacts contract

/-! ## One contract -/

/-- What was read is of a known mode and names a version, by its text. -/
theorem Read.sound {ν : Type} [Label ν] {contract : Contract ν} (read : contract.Read) :
    (contract.mode = .exact ∨ contract.mode = .compatible) ∧
      contract.version = Label.ofText (Label.shown contract.version) ∧
      ∃ version, Version.parse (Label.shown contract.version) = .ok version := by
  obtain ⟨artifact, text, parsed⟩ := read
  exact (sound_of_parse parsed).2

/-- A declared version is refused when it is not the pinned one or not in the range. -/
theorem check_eq_error_iff {contract : Contract String} (read : contract.Read) {found : String}
    {error : Error} : contract.check found = .error error ↔
      (contract.mode = .exact ∧ found ≠ contract.version ∧ error = contract.mismatch found) ∨
      (contract.mode = .compatible ∧ ¬ Version.Compatible found contract.version ∧
        error = contract.incompatibility found) := by
  obtain ⟨exact | compatible, _, needed, needRead⟩ := read.sound
  · rw [check, exact]
    by_cases same : found = contract.version
    · simp [same]
    · simp [same, eq_comm]
  · -- The required version was parsed with the requirement, so only the declared one may be none.
    rw [check, compatible]
    rw [Label.shown_text] at needRead
    simp only [Label.shown_text, needRead, ok_bind]
    cases foundRead : Version.parse found with
    | error cause =>
      have refused : ¬ Version.Compatible found contract.version := by
        rintro ⟨declared, _, declaredRead, _⟩
        rw [foundRead] at declaredRead
        cases declaredRead
      simp [refused, eq_comm]
    | ok declared =>
      by_cases satisfies : declared.Satisfies needed
      · simp [Version.compatible_iff foundRead needRead, satisfies]
      · simp [Version.compatible_iff foundRead needRead, satisfies, eq_comm]

theorem Kept.not_violation {contract : Contract String} {artifacts : Artifacts String}
    (kept : contract.Kept artifacts) (flag : String) (error : Error) :
    ¬ contract.Violation artifacts flag error := by
  -- A violation and a way of keeping the contract agree on the declared version and on the mode.
  rintro (absent | ⟨found, exact, other⟩ | ⟨found, compatible, refused⟩)
  · cases kept with
    | exact pinned _ => cases absent.symm.trans pinned
    | compatible declared _ _ => cases absent.symm.trans declared
  · cases kept with
    | exact pinned _ =>
      cases pinned.symm.trans found
      exact other rfl
    | compatible _ compatible _ => cases exact.symm.trans compatible
  · cases kept with
    | exact _ exact => cases exact.symm.trans compatible
    | compatible declared _ inRange =>
      cases declared.symm.trans found
      exact refused inRange

/-- A contract that was read is kept or violated. -/
theorem Read.kept_or_violation {contract : Contract String} (read : contract.Read)
    (artifacts : Artifacts String) (flag : String) :
    contract.Kept artifacts ∨ ∃ error, contract.Violation artifacts flag error := by
  cases found : artifacts.version? contract.artifact with
  | none => exact .inr ⟨_, .missing found⟩
  | some version =>
    rcases read.sound.1 with exact | compatible
    · by_cases same : version = contract.version
      · exact .inl (.exact (same ▸ found) exact)
      · exact .inr ⟨_, .mismatch found exact same⟩
    · by_cases inRange : Version.Compatible version contract.version
      · exact .inl (.compatible found compatible inRange)
      · exact .inr ⟨_, .incompatible found compatible inRange⟩

theorem Read.kept_iff {contract : Contract String} (read : contract.Read)
    {artifacts : Artifacts String} (flag : String) :
    contract.Kept artifacts ↔ ∀ error, ¬ contract.Violation artifacts flag error :=
  ⟨fun kept => kept.not_violation flag, fun unviolated =>
    (read.kept_or_violation artifacts flag).resolve_right fun ⟨error, violation⟩ =>
      unviolated error violation⟩

end Contract

/-- The contract that a flag lays on a build: in development its own development contract if it has
one, and its release contract otherwise. -/
inductive Flag.Lays (flag : Flag String) : BuildMode → Contract String → Prop
  | release {contract : Contract String} : flag.contract = some contract →
      Lays flag .release contract
  | development {contract : Contract String} : flag.devContract = some contract →
      Lays flag .dev contract
  | fallback {contract : Contract String} : flag.devContract = none →
      flag.contract = some contract → Lays flag .dev contract

theorem Flag.lays_iff {flag : Flag String} {mode : BuildMode} {contract : Contract String} :
    flag.Lays mode contract ↔ flag.contractIn mode = some contract := by
  constructor
  · rintro (ofRelease | ofDev | ⟨noDev, ofRelease⟩)
    · exact ofRelease
    · simp [contractIn, ofDev]
    · simp [contractIn, noDev, ofRelease]
  · intro inForce
    cases mode with
    | release => exact .release inForce
    | dev =>
      rcases (Option.orElse_eq_some ..).1 inForce with ofDev | ⟨noDev, ofRelease⟩
      · exact .development ofDev
      · exact .fallback noDev ofRelease

/-- The contract in force on a flag is one that the flag carries. -/
theorem Flag.carries_of_contractIn {ν : Type} [Label ν] {flag : Flag ν} {mode : BuildMode}
    {contract : Contract ν} (inForce : flag.contractIn mode = some contract) :
    flag.contract = some contract ∨ flag.devContract = some contract := by
  cases mode with
  | release => exact .inl inForce
  | dev =>
    unfold Flag.contractIn at inForce
    rcases (Option.orElse_eq_some ..).1 inForce with ofDev | ⟨_, ofRelease⟩
    · exact .inr ofDev
    · exact .inl ofRelease

namespace Registry

/-- Every contract that a flag of a registry carries was read from a requirement. -/
def PinsRead {ν : Type} [Label ν] (registry : Registry ν) : Prop :=
  ∀ flag ∈ registry.flags, ∀ contract,
    flag.contract = some contract ∨ flag.devContract = some contract → contract.Read

variable {registry : Registry String}

/-- The contract in force on the flag of a given name. -/
def InForce (registry : Registry String) (mode : BuildMode) (name : String)
    (contract : Contract String) : Prop :=
  ∃ flag ∈ registry.flags, flag.name = name ∧ flag.contractIn mode = some contract

/-- The contract in force on the flag of a given name is not kept, which is reported so. -/
def Unmet (registry : Registry String) (artifacts : Artifacts String) (mode : BuildMode)
    (name : String) (error : Error) : Prop :=
  ∃ contract, registry.InForce mode name contract ∧ contract.Violation artifacts name error

/-! ## One flag -/

theorem inForce_iff (distinct : registry.names.Nodup) {flag : Flag String}
    (present : flag ∈ registry.flags) {mode : BuildMode} {contract : Contract String} :
    registry.InForce mode flag.name contract ↔ flag.contractIn mode = some contract := by
  constructor
  · rintro ⟨other, otherPresent, sameName, inForce⟩
    cases eq_of_name_eq distinct otherPresent present sameName
    exact inForce
  · exact fun inForce => ⟨flag, present, rfl, inForce⟩

theorem PinsRead.contractIn (pinsRead : registry.PinsRead) {flag : Flag String}
    (present : flag ∈ registry.flags) {mode : BuildMode} {contract : Contract String}
    (inForce : flag.contractIn mode = some contract) : contract.Read :=
  pinsRead flag present contract (Flag.carries_of_contractIn inForce)

/-- The check of a declared flag fails exactly as the flag is unmet. -/
theorem validateFlag_eq_error_iff (distinct : registry.names.Nodup) (pinsRead : registry.PinsRead)
    {artifacts : Artifacts String} {mode : BuildMode} {name : String}
    (declared : name ∈ registry.names) {error : Error} :
    registry.validateFlag artifacts.declared mode name = .error error ↔
      registry.Unmet artifacts mode name error := by
  obtain ⟨flag, present, rfl⟩ := List.mem_map.1 declared
  simp only [Unmet, inForce_iff distinct present]
  rw [validateFlag, contractFor, get_of_mem distinct present]
  simp only [ok_bind, pure_bind]
  cases inForce : flag.contractIn mode with
  | none => simp
  | some contract =>
    simp only [Option.some.injEq, exists_eq_left', Artifacts.declared_text, ok_bind]
    cases found : artifacts.version? contract.artifact with
    | none =>
      -- The other two ways not to keep a contract need a declared version.
      constructor
      · rintro ⟨⟩
        exact .missing found
      · rintro (_ | ⟨foundSome, _⟩ | ⟨foundSome, _⟩)
        · rfl
        · rw [found] at foundSome
          cases foundSome
        · rw [found] at foundSome
          cases foundSome
    | some version =>
      have read := pinsRead.contractIn present inForce
      refine (Contract.check_eq_error_iff read).trans ?_
      constructor
      · rintro (⟨exact, other, rfl⟩ | ⟨compatible, refused, rfl⟩)
        · exact .mismatch found exact other
        · exact .incompatible found compatible refused
      · rintro (absent | ⟨foundSome, exact, other⟩ | ⟨foundSome, compatible, refused⟩)
        · rw [found] at absent
          cases absent
        · cases found.symm.trans foundSome
          exact .inl ⟨exact, other, rfl⟩
        · cases found.symm.trans foundSome
          exact .inr ⟨compatible, refused, rfl⟩

/-! ## All enabled flags -/

/-- The validation of declared flags passes when none of them is unmet. -/
theorem validate_eq_ok_iff (distinct : registry.names.Nodup) (pinsRead : registry.PinsRead)
    {capabilities : NameSet String} (declared : ∀ name ∈ capabilities, name ∈ registry.names)
    {artifacts : Artifacts String} {mode : BuildMode} :
    registry.validate capabilities artifacts.declared mode = .ok () ↔
      ∀ name ∈ capabilities, ∀ error, ¬ registry.Unmet artifacts mode name error := by
  rw [validate, NameSet.sorted_text, ok_bind, forM_eq_ok_iff]
  simp only [NameSet.mem_toList, check_eq_ok_iff]
  refine forall₂_congr fun name present => forall_congr' fun error => not_congr ?_
  exact validateFlag_eq_error_iff distinct pinsRead (declared name present)

/-- The validation of declared flags fails as the least of them that is unmet. -/
theorem validate_eq_error_iff (distinct : registry.names.Nodup) (pinsRead : registry.PinsRead)
    {capabilities : NameSet String} (declared : ∀ name ∈ capabilities, name ∈ registry.names)
    {artifacts : Artifacts String} {mode : BuildMode} {error : Error} :
    registry.validate capabilities artifacts.declared mode = .error error ↔
      ∃ name ∈ capabilities, registry.Unmet artifacts mode name error ∧
        ∀ other ∈ capabilities, (∃ cause, registry.Unmet artifacts mode other cause) →
          name ≤ other := by
  have unmet_iff : ∀ name ∈ capabilities, ∀ cause,
      registry.validateFlag artifacts.declared mode name = .error cause ↔
        registry.Unmet artifacts mode name cause :=
    fun name present _ => validateFlag_eq_error_iff distinct pinsRead (declared name present)
  rw [validate, NameSet.sorted_text, ok_bind, forM_toList_eq_error_iff]
  refine exists_congr fun name => and_congr_right fun present => and_congr ?_ ?_
  · exact unmet_iff name present error
  · refine forall₂_congr fun other otherPresent => imp_congr_left (exists_congr fun cause => ?_)
    exact unmet_iff other otherPresent cause

/-! ## Result -/

theorem unmet_iff_lays (distinct : registry.names.Nodup) {flag : Flag String}
    (present : flag ∈ registry.flags) {artifacts : Artifacts String} {mode : BuildMode}
    {error : Error} : registry.Unmet artifacts mode flag.name error ↔
      ∃ contract, flag.Lays mode contract ∧ contract.Violation artifacts flag.name error := by
  simp only [Unmet, inForce_iff distinct present, Flag.lays_iff]

/-- A flag is not unmet when it keeps the contract that it lays. -/
theorem not_unmet_iff_kept (distinct : registry.names.Nodup) (pinsRead : registry.PinsRead)
    {flag : Flag String} (present : flag ∈ registry.flags) {artifacts : Artifacts String}
    {mode : BuildMode} : (∀ error, ¬ registry.Unmet artifacts mode flag.name error) ↔
      ∀ contract, flag.Lays mode contract → contract.Kept artifacts := by
  simp only [unmet_iff_lays distinct present, not_exists, not_and]
  rw [forall_comm]
  refine forall_congr' fun contract => ?_
  rw [forall_comm]
  refine forall_congr' fun lays => ?_
  exact ((pinsRead.contractIn present (Flag.lays_iff.1 lays)).kept_iff flag.name).symm

/-- The validation of declared flags passes when the declared versions keep every contract that one
of the flags lays. Otherwise it reports how a contract is violated that the least-named flag with
one lays. -/
theorem validate_exact (registry : Registry String) (constructed : registry.Constructed)
    (pinsRead : registry.PinsRead) (capabilities : NameSet String)
    (declared : ∀ name ∈ capabilities, name ∈ registry.names) (artifacts : Artifacts String)
    (mode : BuildMode) :
    (registry.validate capabilities artifacts.declared mode = .ok () ↔
      ∀ flag ∈ registry.flags, flag.name ∈ capabilities →
        ∀ contract, flag.Lays mode contract → contract.Kept artifacts) ∧
    ∀ error, registry.validate capabilities artifacts.declared mode = .error error ↔
      ∃ flag ∈ registry.flags, flag.name ∈ capabilities ∧
        (∃ contract, flag.Lays mode contract ∧
          contract.Violation artifacts flag.name error) ∧
        ∀ other ∈ registry.flags, other.name ∈ capabilities →
          ∀ contract, other.Lays mode contract → ¬ contract.Kept artifacts →
            flag.name ≤ other.name := by
  have distinct := constructed.wellFormed.coherent.distinct
  -- The names of enabled flags and the enabled flags are the same thing told in two ways.
  have named (name : String) (present : name ∈ capabilities) :
      ∃ flag ∈ registry.flags, flag.name = name :=
    List.mem_map.1 (declared name present)
  constructor
  · rw [validate_eq_ok_iff distinct pinsRead declared]
    constructor
    · intro met flag inTable enabled
      exact (not_unmet_iff_kept distinct pinsRead inTable).1 (met flag.name enabled)
    · intro kept name present
      obtain ⟨flag, inTable, rfl⟩ := named name present
      exact (not_unmet_iff_kept distinct pinsRead inTable).2 (kept flag inTable present)
  · intro error
    rw [validate_eq_error_iff distinct pinsRead declared]
    constructor
    · rintro ⟨name, present, unmet, least⟩
      obtain ⟨flag, inTable, rfl⟩ := named name present
      refine ⟨flag, inTable, present, (unmet_iff_lays distinct inTable).1 unmet, ?_⟩
      intro other otherInTable otherEnabled contract lays violated
      refine least other.name otherEnabled ?_
      by_contra met
      push Not at met
      exact violated ((not_unmet_iff_kept distinct pinsRead otherInTable).1 met contract lays)
    · rintro ⟨flag, inTable, enabled, unmet, least⟩
      refine ⟨flag.name, enabled, (unmet_iff_lays distinct inTable).2 unmet, ?_⟩
      rintro name present ⟨cause, otherUnmet⟩
      obtain ⟨other, otherInTable, rfl⟩ := named name present
      obtain ⟨contract, lays, violation⟩ := (unmet_iff_lays distinct otherInTable).1 otherUnmet
      exact least other otherInTable present contract lays fun kept =>
        kept.not_violation other.name cause violation

/-- Two flags pin one artifact, in a release build so that no version keeps both pins. -/
def twicePinned : Registry String where
  flags :=
    [{ name := "serde", contract := some ⟨"derive", "1.0.139", .exact⟩ },
     { name := "alloc", contract := some ⟨"derive", "1.2", .compatible⟩,
       devContract := some ⟨"derive", "1.0", .compatible⟩ }]
  conflicts := []
  artifact := none

theorem validate_twicePinned :
    twicePinned.Constructed ∧ twicePinned.PinsRead ∧
      (∀ name ∈ NameSet.ofList ["serde", "alloc"], name ∈ twicePinned.names) ∧
      (∃ flag ∈ twicePinned.flags, flag.name ∈ NameSet.ofList ["serde", "alloc"] ∧
        (∃ contract, flag.Lays .release contract ∧ contract.Violation [("derive", "1.1")] flag.name
          (.incompatibleVersion (.text "1.2") (.text "1.1") (.text "derive"))) ∧
        ∀ other ∈ twicePinned.flags, other.name ∈ NameSet.ofList ["serde", "alloc"] →
          ∀ contract, other.Lays .release contract → ¬ contract.Kept [("derive", "1.1")] →
            flag.name ≤ other.name) ∧
      ∀ flag ∈ twicePinned.flags, flag.name ∈ NameSet.ofList ["serde", "alloc"] →
        ∀ contract, flag.Lays .dev contract → contract.Kept [("derive", "1.0.139")] := by
  have constructed : twicePinned.Constructed :=
    ⟨twicePinned.flags, .ok ∅, .ok [], none, by decide⟩
  have pinsRead : twicePinned.PinsRead := by
    have exact : Contract.Read ⟨"derive", "1.0.139", .exact⟩ := ⟨"derive", "=1.0.139", by decide⟩
    have range : Contract.Read ⟨"derive", "1.2", .compatible⟩ := ⟨"derive", "^1.2", by decide⟩
    have wider : Contract.Read ⟨"derive", "1.0", .compatible⟩ := ⟨"derive", "1.0", by decide⟩
    simpa [PinsRead, twicePinned, or_imp, forall_and] using ⟨⟨exact, range⟩, wider⟩
  have declared : ∀ name ∈ NameSet.ofList ["serde", "alloc"], name ∈ twicePinned.names := by
    simp [twicePinned, names]
  refine ⟨constructed, pinsRead, declared, ?_, ?_⟩
  · exact ((validate_exact twicePinned constructed pinsRead _ declared [("derive", "1.1")]
      .release).2 _).1 (by decide)
  · exact (validate_exact twicePinned constructed pinsRead _ declared [("derive", "1.0.139")]
      .dev).1.1 (by decide)

end Registry

end FeatureResolution
