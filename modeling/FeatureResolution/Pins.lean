import FeatureResolution.Artifacts
import FeatureResolution.Registry

/-!
# Pins

`Registry.validate` holds the declared artifact versions against the contracts in force on the
enabled flags, in the order of the flags' names, and stops at the first violation.
`Registry.checkLockstep` is the rule for releases: an artifact and its companions are released
together, so every exact pin names the owner's own version.
-/

namespace FeatureResolution.Registry

variable {ν : Type} [Label ν]

/-- Holds the declared versions, given by a look-up, against the contract in force on one flag. -/
def validateFlag (registry : Registry ν) (declared : ν → Except Error (Option String))
    (mode : BuildMode) (name : ν) : Except Error Unit := do
  match ← registry.contractFor name mode with
  | none => return ()
  | some contract =>
    match ← declared contract.artifact with
    | none => throw (.missingArtifact (Label.document name) (Label.document contract.artifact))
    | some version => contract.check (Label.ofText version)

/-- Holds the declared versions against all contracts in force on the enabled flags. -/
def validate (registry : Registry ν) (capabilities : NameSet ν)
    (declared : ν → Except Error (Option String)) (mode : BuildMode) : Except Error Unit := do
  (← capabilities.sorted).forM (registry.validateFlag declared mode)

/-- The flags with a contract in force, in declaration order. -/
def pinned (registry : Registry ν) (mode : BuildMode) : List (ν × Contract ν) :=
  registry.flags.filterMap fun flag => (flag.contractIn mode).map fun contract =>
    (flag.name, contract)

/-- Checks that every exact release pin names the owner's version; a registry without an owner has
nothing to check. -/
def checkLockstep (registry : Registry ν) : Except Error Unit :=
  match registry.artifact with
  | none => .ok ()
  | some owner =>
    (registry.pinned .release).forM fun (_, contract) =>
      if contract.mode = .exact ∧ Label.agrees contract.version owner.version = false then
        .error (.versionMismatch (Label.document owner.version) (Label.document contract.version)
          (Label.document contract.artifact))
      else .ok ()

end FeatureResolution.Registry
