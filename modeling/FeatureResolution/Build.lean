import FeatureResolution.Closure
import FeatureResolution.Pins
import FeatureResolution.Surface

/-!
# Builds

A build request goes through closure, pin validation and surface, in that order and once. The
first failure is the outcome; there is no partial result.
-/

namespace FeatureResolution

/-- A build request. Its name, its mode and whether it starts from the default set are kept as the
profile or the settings give them; the mode is checked by the build. -/
structure Request (ν : Type) [Label ν] where
  name : Document := .text "adhoc"
  features : NameSet ν := ∅
  defaultFeatures : Document := .bool true
  artifacts : Artifacts ν := []
  mode : Document := .text "release"
deriving DecidableEq, Repr

/-- What a build yields: the enabled flags and the items they expose. -/
structure BuildResult (ν : Type) [Label ν] where
  request : Request ν
  capabilities : NameSet ν
  items : NameSet ν
deriving DecidableEq, Repr

namespace Registry

variable {ν : Type} [Label ν]

/-- The enabled flags of a request and the items they expose, when the declared versions, given by a
look-up, keep the contracts. -/
def surfaceOf (registry : Registry ν) (request : Request ν)
    (declared : ν → Except Error (Option String)) : Except Error (NameSet ν × NameSet ν) := do
  let capabilities ← registry.resolve request.features request.defaultFeatures.truthy
  let mode ← BuildMode.parse request.mode
  registry.validate capabilities declared mode
  let items ← registry.materialize capabilities
  return (capabilities, items)

/-- Runs a build request. -/
def run (registry : Registry ν) (request : Request ν) : Except Error (BuildResult ν) := do
  let (capabilities, items) ← registry.surfaceOf request request.artifacts.declared
  return ⟨request, capabilities, items⟩

end Registry

end FeatureResolution
