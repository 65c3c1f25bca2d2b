import FeatureResolution.Schema

/-!
# The schema of manifests

A manifest names the artifact that owns it and declares at least one flag. Names of flags are
letters, digits, dashes and underscores, begin with a letter or digit and are not the reserved name;
versions and requirements have the form that reading them needs.
-/

namespace FeatureResolution.Schema

/-! ## Patterns -/

/-- One ASCII digit. -/
def digitClass : Pattern :=
  .oneOf [.range '0' '9']

/-- Up to two dotted runs of digits and an optional suffix. -/
def versionTail : Pattern :=
  .next (.upTo (.group (.next (.literal '.') (.nonempty digitClass))) 2)
    (.optional (.group (.next (.oneOf [.single '-', .single '+'])
      (.repeated (.oneOf [.range '0' '9', .range 'A' 'Z', .range 'a' 'z', .single '.',
        .single '+', .single '-'])))))

/-- A version. -/
def versionPattern : Pattern :=
  .next (.nonempty digitClass) versionTail

/-- A version after an optional sign and blanks. -/
def requirementPattern : Pattern :=
  .next (.optional (.oneOf [.single '=', .single '^']))
    (.next (.repeated .blank) (.next (.nonempty digitClass) versionTail))

/-- The name of a flag. -/
def flagNamePattern : Pattern :=
  .next (.oneOf [.range 'A' 'Z', .range 'a' 'z', .range '0' '9'])
    (.repeated (.oneOf [.range 'A' 'Z', .range 'a' 'z', .range '0' '9', .single '_',
      .single '-']))

/-! ## Parts -/

/-- A text that is not empty. -/
def someText : Schema :=
  .rules [.kind .string, .minLength 1]

/-- Any text. -/
def anyText : Schema :=
  .rules [.kind .string]

/-- The name of a flag. -/
def flagName : Schema :=
  .rules [.kind .string, .pattern flagNamePattern, .notText "default"]

/-- A requirement. -/
def requirement : Schema :=
  .rules [.kind .string, .pattern requirementPattern]

/-- A map with the given fields and no others. -/
def record (required : List String) (fields : List (String × Schema)) : Schema :=
  .rules [.kind .object, .required required, .closed (fields.map (·.1)), .fields fields]

/-- A list whose items keep a schema. -/
def listOf (item : Schema) : Schema :=
  .rules [.kind .array, .items item]

/-- The owner of a manifest. -/
def owner : Schema :=
  record ["name", "version"]
    [("name", someText), ("version", .rules [.kind .string, .pattern versionPattern])]

/-- The declaration of a flag. -/
def flag : Schema :=
  record ["name"]
    [("name", flagName),
     ("kind", .rules [.kind .string, .oneOf ["feature", "dependency"]]),
     ("default", .rules [.kind .boolean]),
     ("description", anyText),
     ("implies", listOf flagName),
     ("provides", listOf someText),
     ("artifact", someText),
     ("requirement", requirement),
     ("dev_requirement", requirement),
     ("source", .rules [.kind .object])]

/-- A pair of flags that exclude each other. -/
def conflict : Schema :=
  .rules [.kind .array, .items flagName, .minItems 2, .maxItems 2]

/-! ## The manifest -/

/-- A manifest. -/
def manifest : Schema :=
  record ["artifact", "flags"]
    [("artifact", owner),
     ("default", listOf flagName),
     ("flags", .rules [.kind .array, .minItems 1, .items flag]),
     ("conflicts", listOf conflict)]

end FeatureResolution.Schema
