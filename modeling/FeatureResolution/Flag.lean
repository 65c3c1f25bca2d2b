import FeatureResolution.Contract
import FeatureResolution.NameSet

/-!
# Flags

A flag is a named capability: the flags it implies, the items it provides, and the contracts it
lays on an artifact, one for release builds and possibly a looser one for development.
-/

namespace FeatureResolution

/-- What a flag stands for: a feature of the artifact, or a dependency that features imply. A
table may say something else, which is kept as it is. -/
inductive FlagKind where
  | feature
  | dependency
  | other (value : Document)
deriving DecidableEq, Repr

namespace FlagKind

/-- The kind that a document names. -/
def ofDocument (value : Document) : FlagKind :=
  if value = .text "feature" then .feature
  else if value = .text "dependency" then .dependency
  else .other value

/-- The document that names a kind. -/
def toDocument : FlagKind → Document
  | .feature => .text "feature"
  | .dependency => .text "dependency"
  | .other value => value

theorem toDocument_ofDocument (value : Document) : (ofDocument value).toDocument = value := by
  unfold ofDocument
  split
  · next same => exact same.symm
  · split
    · next same => exact same.symm
    · rfl

end FlagKind

/-- A capability flag. `source` tells where a dependency comes from; nothing is computed from it. -/
structure Flag (ν : Type) [Label ν] where
  name : ν
  isDefault : Bool := false
  implies : NameSet ν := ∅
  contract : Option (Contract ν) := none
  devContract : Option (Contract ν) := none
  kind : FlagKind := .feature
  description : ν := Label.ofText ""
  provides : NameSet ν := ∅
  source : List (Scalar × Document) := []
deriving DecidableEq, Repr

namespace Flag

variable {ν : Type} [Label ν]

/-- The flag of a given name in a table of flags. -/
def find? (name : ν) (flags : List (Flag ν)) : Option (Flag ν) :=
  flags.find? fun flag => Label.same flag.name name

/-- Whether a flag of a given name is declared in a table of flags. -/
def isDeclared (name : ν) (flags : List (Flag ν)) : Bool :=
  (find? name flags).isSome

theorem mem_of_find? {name : String} {flags : List (Flag String)} {flag : Flag String}
    (found : find? name flags = some flag) : flag ∈ flags ∧ flag.name = name :=
  ⟨List.mem_of_find?_eq_some found, by simpa using List.find?_some found⟩

theorem isDeclared_iff {name : String} {flags : List (Flag String)} :
    isDeclared name flags = true ↔ name ∈ flags.map (·.name) := by
  simp [isDeclared, find?]

/-- In a table without repeated names each flag is found under its name. -/
theorem find?_of_mem {flags : List (Flag String)} (distinct : (flags.map (·.name)).Nodup)
    {flag : Flag String} (present : flag ∈ flags) : find? flag.name flags = some flag := by
  induction flags with
  | nil => cases present
  | cons head rest ih =>
    rw [List.map_cons, List.nodup_cons] at distinct
    rcases List.mem_cons.1 present with rfl | inRest
    · simp [find?]
    · have other : head.name ≠ flag.name := fun same =>
        distinct.1 (same ▸ List.mem_map_of_mem inRest)
      have found := ih distinct.2 inRest
      simpa [find?, other] using found

/-- Whether two optional contracts say the same. -/
def contractsAgree : Option (Contract ν) → Option (Contract ν) → Bool
  | none, none => true
  | some first, some second => first.agrees second
  | _, _ => false

/-- Whether two flags say the same; where they come from does not count. -/
def agrees (first second : Flag ν) : Bool :=
  Label.agrees first.name second.name && first.isDefault == second.isDefault &&
    first.implies.agrees second.implies && contractsAgree first.contract second.contract &&
    contractsAgree first.devContract second.devContract &&
    first.kind.toDocument.same second.kind.toDocument &&
    Label.agrees first.description second.description && first.provides.agrees second.provides

end Flag

/-- A release build enforces exact pins; in a development build the development contracts apply. -/
inductive BuildMode where
  | release
  | dev
deriving DecidableEq, Repr, Inhabited

namespace BuildMode

/-- The name of a build mode. -/
def name : BuildMode → String
  | .release => "release"
  | .dev => "dev"

/-- The build modes, in the order in which they are offered. -/
def all : List BuildMode := [.release, .dev]

/-- The build mode of a given name. -/
def ofName? (name : String) : Option BuildMode :=
  all.find? (·.name = name)

/-- The build mode that a document names. -/
def parse (mode : Document) : Except Error BuildMode :=
  if mode = .text "release" then .ok .release
  else if mode = .text "dev" then .ok .dev
  else .error (.fault (if mode.isWritable then .unknownBuildMode mode else .numberTooLong))

/-- The contracts to look up under a mode that is not checked: anything but `dev` means release. -/
def lenient (mode : Document) : BuildMode :=
  if mode = .text "dev" then .dev else .release

end BuildMode

/-- The contract that is in force on a flag in a build mode: in development its own development
contract comes before the release contract. -/
def Flag.contractIn {ν : Type} [Label ν] (flag : Flag ν) : BuildMode → Option (Contract ν)
  | .release => flag.contract
  | .dev => flag.devContract <|> flag.contract

end FeatureResolution
