import FeatureResolution.Build
import FeatureResolution.CheckedFile

/-!
# Profiles

A profile is a build request in a file. What it leaves open is filled in from the section `build`
of the settings, and what those leave open is: release mode, starting from the default set.
-/

namespace FeatureResolution

namespace Request

variable {ν : Type} [Label ν]

/-- The declared versions in a profile, each as its text. What is declared under a name that no
label stands for is declared for no artifact. -/
def readArtifacts (profile : Document) : Except Error (Artifacts ν) := do
  let fields ← ((← profile.field? "artifacts").getD (.map [])).fields
  return fields.filterMap fun (name, version) =>
    (Label.ofDocument? (.scalar name)).map fun label => (label, version.shown)

/-- The request that a profile makes under given settings. -/
def ofProfile (profile settings : Document) : Except Error (Request ν) := do
  let build := (← settings.field? "build").getD (.map [])
  let name ← profile.field "name"
  let features ← ((← profile.field? "features").getD (.list [])).names
  let defaultFeatures := (← build.field? "default_features").getD (.bool true)
  let artifacts ← readArtifacts profile
  let mode := (← build.field? "mode").getD (.text "release")
  return {
    name, artifacts, features
    defaultFeatures := (← profile.field? "default_features").getD defaultFeatures
    mode := (← profile.field? "mode").getD mode }

end Request

namespace Host

/-- Loads a request from the profile of a given name, or from a given file. -/
def loadRequest {ν : Type} [Label ν] (host : Host) (settings profile : Document)
    (file : Option String) : Except Error (Request ν) := do
  let path ←
    match file with
    | some path => pure path
    | none => pure (← host.profilePath settings profile).text
  Request.ofProfile (← host.files.loadProfile path) settings

end Host

end FeatureResolution
