import FeatureResolution.Proofs.PinConsistency

/-!
# Builds accepted for release are accepted for development

In development a flag that has a contract for it is held to that contract instead of its release
contract. A table lays both on one artifact (`Registry.one_artifact_of_ofTable`). So where the
release contract is an exact pin, and the pinned version keeps the development contract, a declared
version that keeps the one is the pinned text itself and keeps the other too
(`Contract.KeptBy.of_pinned`). A flag without a development contract is held to its release contract
in both modes.

Result: if every development contract stands beside such a pin, whatever passes the validation for a
release passes it for development.
-/

namespace FeatureResolution

open Label

variable {ν : Type} [Label ν]

/-! ## Two contracts of a flag -/

/-- What keeps an exact pin keeps every contract on the same artifact that the pinned version
keeps. -/
theorem Contract.KeptBy.of_pinned {pin dev : Contract ν} (read : pin.Read)
    (exact : pin.mode = .exact) (oneArtifact : dev.artifact = pin.artifact)
    (kept : dev.check pin.version = .ok ()) {declared : ν → Except Error (Option String)}
    (pinKept : pin.KeptBy declared) : dev.KeptBy declared := by
  obtain ⟨found, isFound, passes⟩ := pinKept
  rcases read.check_eq_ok_iff.1 passes with ⟨_, isPinned⟩ | ⟨compatible, _⟩
  · refine ⟨found, oneArtifact ▸ isFound, ?_⟩
    rwa [isPinned, ← read.sound.2.1]
  · cases exact.symm.trans compatible

/-- The development contract of a flag stands beside an exact release pin on a version that keeps
it; a flag without a development contract needs no pin. -/
def Flag.DevCovered (flag : Flag ν) : Prop :=
  ∀ dev, flag.devContract = some dev →
    ∃ pin, flag.contract = some pin ∧ pin.mode = .exact ∧ dev.check pin.version = .ok ()

namespace Registry

variable {registry : Registry ν}

/-- A table lays the contracts of a flag on one artifact. -/
theorem one_artifact_of_ofTable {table : Document} (made : ofTable table = .ok registry)
    {flag : Flag ν} (present : flag ∈ registry.flags) {pin dev : Contract ν}
    (ofRelease : flag.contract = some pin) (ofDev : flag.devContract = some dev) :
    dev.artifact = pin.artifact := by
  obtain ⟨_, _, declaration⟩ := declaration_of_ofTable made
  obtain ⟨_, _, declared, flagRead, _, sameContract, sameDevContract⟩ := declaration flag present
  obtain ⟨_, _, _, _, _, artifact, _, parsed⟩ := parts_of_read flagRead
  rw [sameContract] at ofRelease
  rw [sameDevContract] at ofDev
  obtain ⟨_, pinParsed⟩ := parsed pin (.inl ofRelease)
  obtain ⟨_, devParsed⟩ := parsed dev (.inr ofDev)
  rw [(Contract.sound_of_parse pinParsed).1, (Contract.sound_of_parse devParsed).1]

/-- The flags that pass their check in a release pass it in development. -/
theorem validateFlag_dev_of_release {table : Document} (made : ofTable table = .ok registry)
    (covered : ∀ flag ∈ registry.flags, flag.DevCovered)
    {declared : ν → Except Error (Option String)} {name : ν}
    (passes : registry.validateFlag declared .release name = .ok ()) :
    registry.validateFlag declared .dev name = .ok () := by
  obtain ⟨flag, lookedUp, kept⟩ := validateFlag_eq_ok_iff.1 passes
  have present := mem_of_get lookedUp
  refine validateFlag_eq_ok_iff.2 ⟨flag, lookedUp, fun contract inForce => ?_⟩
  -- In development the flag is held to a contract of its own or falls back on the release one.
  rcases Flag.carries_of_contractIn inForce with ofRelease | ofDev
  · exact kept contract ofRelease
  · obtain ⟨pin, ofRelease, exact, devKept⟩ := covered flag present contract ofDev
    have read := pinsRead_of_ofTable made flag present pin (.inl ofRelease)
    have oneArtifact := one_artifact_of_ofTable made present ofRelease ofDev
    exact (kept pin ofRelease).of_pinned read exact oneArtifact devKept

/-! ## Result -/

/-- In a registry made of a table, where every development contract of a flag is kept by the version
of an exact release pin of that flag, whatever flags and declared versions pass the validation for a
release pass it for development. -/
theorem validate_dev_of_release (table : Document) (registry : Registry ν)
    (made : ofTable table = .ok registry) (covered : ∀ flag ∈ registry.flags, flag.DevCovered)
    (capabilities : NameSet ν) (declared : ν → Except Error (Option String))
    (passes : registry.validate capabilities declared .release = .ok ()) :
    registry.validate capabilities declared .dev = .ok () := by
  obtain ⟨ordered, each⟩ := validate_eq_ok_iff_flags.1 passes
  refine validate_eq_ok_iff_flags.2 ⟨ordered, fun name present => ?_⟩
  exact validateFlag_dev_of_release made covered (each name present)

/-- A flag with an exact pin and a wider range for development, and a flag with one range. -/
def loosenedTable : Document :=
  .map [(.text "flags", .list [
    .map [(.text "name", .text "derive"), (.text "requirement", .text "=1.0.139"),
      (.text "dev_requirement", .text "^1.0")],
    .map [(.text "name", .text "alloc"), (.text "requirement", .text "1.2")]])]

/-- The registry that this table becomes. -/
def loosened : Registry String where
  flags :=
    [{ name := "derive", contract := some ⟨"derive", "1.0.139", .exact⟩,
       devContract := some ⟨"derive", "1.0", .compatible⟩ },
     { name := "alloc", contract := some ⟨"alloc", "1.2", .compatible⟩ }]
  conflicts := []
  artifact := none

theorem validate_dev_of_release_loosened :
    ofTable loosenedTable = .ok loosened ∧ (∀ flag ∈ loosened.flags, flag.DevCovered) ∧
      loosened.validate (.ofList ["derive", "alloc"])
        (Artifacts.declared [("derive", "1.0.139"), ("alloc", "1.3.0")]) .release = .ok () ∧
      loosened.validate (.ofList ["derive", "alloc"])
        (Artifacts.declared [("derive", "1.0.139"), ("alloc", "1.3.0")]) .dev = .ok () := by
  have made : ofTable loosenedTable = .ok loosened := rfl
  have covered : ∀ flag ∈ loosened.flags, flag.DevCovered := by
    intro flag present dev held
    simp only [loosened, List.mem_cons, List.not_mem_nil, or_false] at present
    rcases present with rfl | rfl
    · cases held
      exact ⟨_, rfl, rfl, rfl⟩
    · cases held
  have passes : loosened.validate (.ofList ["derive", "alloc"])
      (Artifacts.declared [("derive", "1.0.139"), ("alloc", "1.3.0")]) .release = .ok () := by
    rfl
  exact ⟨made, covered, passes, validate_dev_of_release _ _ made covered _ _ passes⟩

end Registry

end FeatureResolution
