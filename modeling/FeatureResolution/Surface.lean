import FeatureResolution.Registry
import FeatureResolution.Text.Sorted

/-!
# Surface of a build

The surface of a set of enabled flags is the union of the items they provide; no flag takes away
what another contributes. Two flags of a conflict pair cannot be enabled together. A resolved build
is handed on in one of three formats: a sorted list, the feature arguments of a package build, or a
mask with one letter for each flag.
-/

namespace FeatureResolution

/-- How a resolved build is printed. -/
inductive Format where
  | list
  | cargo
  | mask
deriving DecidableEq, Repr, Inhabited

namespace Format

/-- The name of a format. -/
def name : Format → String
  | .list => "list"
  | .cargo => "cargo"
  | .mask => "mask"

/-- The formats, in the order in which they are offered. -/
def all : List Format := [.list, .cargo, .mask]

/-- The format of a given name. -/
def ofName? (name : String) : Option Format :=
  all.find? (·.name = name)

/-- The format that a document names. -/
def parse (format : Document) : Except Error Format :=
  let named :=
    match format with
    | .text name => ofName? name
    | _ => none
  match named with
  | some known => .ok known
  | none => .error (.fault (if format.isWritable then .unknownFormat format else .numberTooLong))

end Format

namespace Registry

variable {ν : Type} [Label ν]

/-- Checks that no conflict pair is enabled as a whole. -/
def checkConflicts (registry : Registry ν) (capabilities : NameSet ν) : Except Error Unit :=
  registry.conflicts.forM fun (first, second) =>
    if first ∈ capabilities ∧ second ∈ capabilities then
      .error (.conflict (Label.document first) (Label.document second))
    else .ok ()

/-- The items that the enabled flags provide. -/
def materialize (registry : Registry ν) (capabilities : NameSet ν) : Except Error (NameSet ν) := do
  registry.checkConflicts capabilities
  capabilities.toList.foldlM (fun items name => return items ∪ (← registry.get name).provides) ∅

/-- One letter for each flag in declaration order: `Y` for an enabled flag, `N` for another. -/
def mask (registry : Registry ν) (capabilities : NameSet ν) : String :=
  String.ofList (registry.names.map fun name => if name ∈ capabilities then 'Y' else 'N')

/-- The enabled features in declaration order; dependencies are left out. -/
def enabledFeatures (registry : Registry ν) (capabilities : NameSet ν) : List ν :=
  (registry.flags.filter fun flag => flag.name ∈ capabilities ∧ flag.kind = .feature).map (·.name)

/-- The arguments that ask a package build for the given features. -/
def cargoArguments : List String → String
  | [] => "--no-default-features"
  | features => "--no-default-features --features " ++ String.intercalate "," features

/-- Prints a resolved build. The list shows the given items, or the enabled flags when none are
given; the other formats show the enabled flags. What is listed has to be texts. -/
def render (registry : Registry ν) (capabilities : NameSet ν) (items : Option (List ν))
    (format : Format) : Except Error String :=
  match format with
  | .list => do
    let lines ← Label.texts (items.getD capabilities.toList)
    return String.intercalate "\n" (Text.sorted lines)
  | .cargo => do return cargoArguments (← Label.texts (registry.enabledFeatures capabilities))
  | .mask => .ok (registry.mask capabilities)

end Registry

end FeatureResolution
