import FeatureResolution.Schema.Manifest

/-!
# The schema of profiles

A profile has a name and may say which features it requests, whether it starts from the default
set, in which mode it builds and which artifact versions it declares.
-/

namespace FeatureResolution.Schema

/-- A profile. -/
def profile : Schema :=
  record ["name"]
    [("name", someText),
     ("description", anyText),
     ("features", listOf someText),
     ("default_features", .rules [.kind .boolean]),
     ("mode", .rules [.kind .string, .oneOf ["release", "dev"]]),
     ("artifacts", .rules [.kind .object, .eachField someText])]

end FeatureResolution.Schema
