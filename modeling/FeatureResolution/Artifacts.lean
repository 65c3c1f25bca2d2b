import FeatureResolution.Label
import FeatureResolution.Text.Blank

/-!
# Declared artifact versions

A build declares the artifacts it is made with as `NAME=VERSION`. `Artifacts` keeps the declared
versions in the order in which the names first appeared; a later declaration of a name replaces the
earlier version.
-/

namespace FeatureResolution

/-- Declared versions by artifact name. -/
abbrev Artifacts (ν : Type) := List (ν × String)

namespace Artifacts

variable {ν : Type} [Label ν]

/-- Declares a version: in place if the name is known, at the end otherwise. -/
def declare (name : ν) (version : String) : Artifacts ν → Artifacts ν
  | [] => [(name, version)]
  | (known, old) :: rest =>
    if Label.same known name then (known, version) :: rest
    else (known, old) :: declare name version rest

/-- The declared version of an artifact. -/
def version? (name : ν) : Artifacts ν → Option String
  | [] => none
  | (known, version) :: rest => if Label.same known name then some version else version? name rest

theorem version?_declare (name other version : String) (artifacts : Artifacts String) :
    version? other (declare name version artifacts) =
      if other = name then some version else version? other artifacts := by
  induction artifacts with
  | nil => by_cases same : other = name <;> simp [declare, version?, same, Ne.symm]
  | cons entry rest ih =>
    obtain ⟨known, old⟩ := entry
    by_cases here : known = name
    · subst here
      by_cases same : other = known
      · simp [declare, version?, same]
      · simp [declare, version?, same, Ne.symm same]
    · by_cases same : known = other
      · subst same
        simp [declare, version?, here]
      · simp [declare, version?, here, same, ih]

/-- Looks up the declared version of an artifact. -/
def declared (artifacts : Artifacts ν) (name : ν) : Except Error (Option String) := do
  return version? (← Label.key name) artifacts

@[simp] theorem declared_text (artifacts : Artifacts String) (name : String) :
    declared artifacts name = .ok (version? name artifacts) :=
  rfl

/-- The trimmed name and version of one declaration, which is cut at its first `=`. -/
def splitDeclaration (argument : String) : Except Error (String × String) :=
  let chars := argument.toList
  let name := Text.trimChars (chars.takeWhile (· != '='))
  let version := Text.trimChars ((chars.dropWhile (· != '=')).drop 1)
  if !chars.contains '=' || name.isEmpty || version.isEmpty then
    .error (.fault (.malformedArtifact argument))
  else .ok (String.ofList name, String.ofList version)

/-- Reads declarations one after the other. -/
def parse (arguments : List String) : Except Error (Artifacts String) :=
  arguments.foldlM
    (fun artifacts argument => do
      let (name, version) ← splitDeclaration argument
      return declare name version artifacts) []

end Artifacts

/-- The names in a feature list, which are separated by commas and blanks. -/
def splitFeatures (text : String) : List String :=
  Text.words (fun c => c == ',' || Text.isBlank c) text

end FeatureResolution
