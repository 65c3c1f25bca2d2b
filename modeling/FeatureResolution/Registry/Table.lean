import FeatureResolution.Document.Access
import FeatureResolution.Registry

/-!
# Registries from tables

A table is a document with the fields `artifact`, `flags`, `default` and `conflicts`. It need not
have been checked before: whatever the document holds, reading it either yields a registry or fails
with the first thing that cannot be used.
-/

namespace FeatureResolution

variable {ν : Type} [Label ν]

namespace Flag

/-- The contract that a field of a declaration lays on an artifact; the field may be left out or
left empty. -/
def readContract (artifact : ν) (key : String) (entry : Document) :
    Except Error (Option (Contract ν)) := do
  match ← entry.field? key with
  | none => return none
  | some value =>
    if value.truthy then return some (← Contract.parse artifact value.shown) else return none

/-- A set of names, empty when the field is absent. -/
def readNames (key : String) (entry : Document) : Except Error (NameSet ν) := do
  match ← entry.field? key with
  | none => return ∅
  | some value => value.names

/-- Reads the declaration of a flag. The flag's own name is also the name of its artifact unless it
names another. -/
def read (entry : Document) : Except Error (Flag ν) := do
  let name ← entry.field "name"
  let artifact ← Label.ofDocument ((← entry.field? "artifact").getD name)
  let contract ← readContract artifact "requirement" entry
  let devContract ← readContract artifact "dev_requirement" entry
  let isDefault := ((← entry.field? "default").getD (.bool false)).truthy
  let implies ← readNames "implies" entry
  let kind := FlagKind.ofDocument ((← entry.field? "kind").getD (.text "feature"))
  let description ← ((← entry.field? "description").getD (.text "")).asText
  let provides ← readNames "provides" entry
  let source ← ((← entry.field? "source").getD (.map [])).asMap
  return {
    name := ← Label.ofDocument name
    description := Label.ofText (Text.trim description)
    contract, devContract, isDefault, implies, kind, provides, source }

end Flag

namespace Registry

/-- The owner that a table names, if it names one. -/
def readArtifact (table : Document) : Except Error (Option (Artifact ν)) := do
  match ← table.field? "artifact" with
  | none => return none
  | some owner =>
    if owner.truthy then
      let name ← owner.field "name"
      let version ← owner.field "version"
      return some ⟨← Label.ofDocument name, Label.ofText version.shown⟩
    else return none

/-- A conflict: a value with exactly two elements. -/
def readPair (conflict : Document) : Except Error (ν × ν) := do
  match ← conflict.elements with
  | [first, second] => return (← Label.ofDocument first, ← Label.ofDocument second)
  | _ :: _ :: _ :: _ => throw (.fault .pairTooLong)
  | few => throw (.fault (.pairTooShort few.length))

/-- The elements of a field of a table, none when the field is absent. -/
def readElements (key : String) (table : Document) : Except Error (List Document) := do
  match ← table.field? key with
  | none => return []
  | some value => value.elements

/-- Makes a registry of flags and of the default list and the conflicts of a table. -/
def ofParts (flags : List (Flag ν)) (table : Document) (artifact : Option (Artifact ν)) :
    Except Error (Registry ν) :=
  assemble flags (Flag.readNames "default" table)
    ((readElements "conflicts" table).map (List.map readPair)) artifact

/-- Makes a registry of a table. -/
def ofTable (table : Document) : Except Error (Registry ν) := do
  let artifact ← readArtifact table
  let flags ← (← readElements "flags" table).mapM Flag.read
  ofParts flags table artifact

end Registry

end FeatureResolution
