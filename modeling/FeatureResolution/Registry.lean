import FeatureResolution.CycleSearch
import FeatureResolution.Flag

/-!
# Registries

A `Registry` is a checked table of flags in declaration order, with the pairs of flags that
exclude each other and the artifact that owns the table. `Registry.assemble` checks a table before
it becomes a registry and reports the first defect, in this order:

1. a flag with the reserved name of the default set, or a second flag of one name;
2. an undeclared name in the default list, the least one;
3. an undeclared target of an implication, the least one of the first flag that has one;
4. an undeclared member of a conflict pair;
5. a cycle of implications.

Flags named in the default list are marked as defaults, and nothing else about them changes.
-/

namespace FeatureResolution

/-- The name that stands for the default set in a request. -/
def defaultSetName : String := "default"

/-- The artifact that owns a registry. -/
structure Artifact (ν : Type) where
  name : ν
  version : ν
deriving DecidableEq, Repr

/-- A table of flags. -/
structure Registry (ν : Type) [Label ν] where
  flags : List (Flag ν)
  conflicts : List (ν × ν)
  artifact : Option (Artifact ν)
deriving DecidableEq, Repr

variable {ν : Type} [Label ν]

/-- The owner of a registry, by name and version. -/
def Artifact.shown (artifact : Artifact ν) : String :=
  Label.shown artifact.name ++ " " ++ Label.shown artifact.version

namespace Registry

/-! ## Looking flags up -/

/-- The flag of a given name, which has to be declared. -/
def get (registry : Registry ν) (name : ν) : Except Error (Flag ν) :=
  if Label.isKey name then
    match Flag.find? name registry.flags with
    | some flag => .ok flag
    | none => .error (.unknownFlag (Label.document name))
  else .error .wrongShape

/-- Whether a registry has a flag of a given name. -/
def contains (registry : Registry ν) (name : ν) : Bool :=
  Flag.isDeclared name registry.flags

/-- The names of the flags in declaration order. -/
def names (registry : Registry ν) : List ν :=
  registry.flags.map (·.name)

/-- The number of flags. -/
def size (registry : Registry ν) : Nat :=
  registry.flags.length

/-- The names of the flags that are on by default. -/
def defaultSet (registry : Registry ν) : NameSet ν :=
  .ofList ((registry.flags.filter (·.isDefault)).map (·.name))

/-- The flags that a flag implies directly. -/
def impliedBy (registry : Registry ν) (name : ν) : Except Error (NameSet ν) := do
  return (← registry.get name).implies

/-- The contract in force on a flag. -/
def contractFor (registry : Registry ν) (name : ν) (mode : BuildMode) :
    Except Error (Option (Contract ν)) := do
  return (← registry.get name).contractIn mode

/-- The owner of a registry in words. -/
def owner (registry : Registry ν) : String :=
  match registry.artifact with
  | some artifact => artifact.shown
  | none => "anonymous"

/-- A registry in one line: its owner and its number of flags. -/
def summary (registry : Registry ν) : String :=
  "<FlagRegistry " ++ registry.owner ++ ": " ++ toString registry.size ++ " flags>"

/-! ## Checking a table -/

/-- Checks the names of the flags, given those declared before. -/
def checkNames (seen : List ν) : List (Flag ν) → Except Error Unit
  | [] => .ok ()
  | flag :: rest =>
    if Label.same flag.name (Label.ofText defaultSetName) then
      .error (.badManifest "flags" ("'" ++ defaultSetName ++ "' is reserved for the default set"))
    else if !Label.isKey flag.name then .error .wrongShape
    else if seen.any (Label.same flag.name) then
      .error (.duplicateFlag (Label.document flag.name))
    else checkNames (flag.name :: seen) rest

/-- Checks that names are declared and reports the first that is not. -/
def checkDeclared (flags : List (Flag ν)) : List ν → Except Error Unit
  | [] => .ok ()
  | name :: rest =>
    if !Label.isKey name then .error .wrongShape
    else if Flag.isDeclared name flags then checkDeclared flags rest
    else .error (.unknownFlag (Label.document name))

/-- Marks the flags named in the default list as defaults. -/
def markDefaults (defaults : NameSet ν) (flags : List (Flag ν)) : List (Flag ν) :=
  flags.map fun flag => if flag.name ∈ defaults then { flag with isDefault := true } else flag

/-- Checks the targets of all implications, flag by flag. -/
def checkTargets (flags : List (Flag ν)) : Except Error Unit :=
  flags.forM fun flag => do checkDeclared flags (← flag.implies.sorted)

/-- The targets of a flag's implications that the search follows, in ascending order; a null leads
nowhere. -/
def targets (flags : List (Flag ν)) (name : ν) : List ν :=
  match Flag.find? name flags with
  | some flag => flag.implies.toList.filter fun target => Label.document target != .null
  | none => []

/-- Flags that imply each other in a circle; they can be told when their names are texts. -/
def cycleError (cycle : List ν) : Error :=
  match Label.texts cycle with
  | .ok names => .implicationCycle names
  | .error error => error

/-- Checks that no flag implies itself through a chain of implications. -/
def checkAcyclic (flags : List (Flag ν)) : Except Error Unit :=
  match CycleSearch.walk (targets flags) (flags.map (·.name)) with
  | .ok _ => .ok ()
  | .error cycle => .error (cycleError cycle)

/-- A conflict pair both members of which are declared. -/
def checkPair (flags : List (Flag ν)) (pair : Except Error (ν × ν)) : Except Error (ν × ν) := do
  let (first, second) ← pair
  checkDeclared flags [first, second]
  return (first, second)

/-- Checks a table and makes it a registry. The default list and the conflict pairs may themselves
be unreadable; such an error counts when the turn of that part comes. -/
def assemble (flags : List (Flag ν)) (defaults : Except Error (NameSet ν))
    (conflicts : Except Error (List (Except Error (ν × ν))))
    (artifact : Option (Artifact ν)) : Except Error (Registry ν) := do
  checkNames [] flags
  let defaults ← defaults
  checkDeclared flags (← defaults.sorted)
  let marked := markDefaults defaults flags
  checkTargets marked
  let pairs ← (← conflicts).mapM (checkPair marked)
  checkAcyclic marked
  return ⟨marked, pairs, artifact⟩

/-- Makes a registry of flags, default names and conflict pairs. -/
def build (flags : List (Flag ν)) (defaults : List ν) (conflicts : List (ν × ν))
    (artifact : Option (Artifact ν)) : Except Error (Registry ν) :=
  assemble flags (.ok (.ofList defaults)) (.ok (conflicts.map .ok)) artifact

end Registry

end FeatureResolution
