import FeatureResolution.Label
import FeatureResolution.Version

/-!
# Requirements and contracts

A requirement text is a version, alone or after `^` for a compatible range, or after `=` for an
exact pin. A `Contract` is a requirement on a named artifact, and `Contract.check` holds a declared
version against it:

* an exact pin wants the very text it names, so patch releases do not stand in for each other;
* a compatible range wants the same major and at least the same minor number.
-/

namespace FeatureResolution

/-- How a contract compares versions. Contracts put together by hand may name another way, which
every check refuses. -/
inductive ContractMode where
  | exact
  | compatible
  | other (value : Document)
deriving DecidableEq, Repr

namespace ContractMode

/-- The mode that a document names. -/
def ofDocument (value : Document) : ContractMode :=
  if value = .text "exact" then .exact
  else if value = .text "compatible" then .compatible
  else .other value

/-- The document that names a mode. -/
def toDocument : ContractMode → Document
  | .exact => .text "exact"
  | .compatible => .text "compatible"
  | .other value => value

theorem toDocument_ofDocument (value : Document) : (ofDocument value).toDocument = value := by
  unfold ofDocument
  split
  · next same => exact same.symm
  · split
    · next same => exact same.symm
    · rfl

end ContractMode

/-- A version and how declared versions are compared with it. -/
structure Requirement where
  version : String
  mode : ContractMode
deriving DecidableEq, Repr

namespace Requirement

/-- The parts of a trimmed requirement text: what its first character says and the version. -/
def split (chars : List Char) : ContractMode × List Char :=
  match chars with
  | '=' :: rest => (.exact, Text.trimChars rest)
  | '^' :: rest => (.compatible, Text.trimChars rest)
  | plain => (.compatible, plain)

/-- Reads a requirement text; its version has to be one, even where only its text will count. -/
def parse (text : String) : Except Error Requirement := do
  let (mode, chars) := split (Text.trimChars text.toList)
  let version := String.ofList chars
  let _ ← Version.parse version
  return ⟨version, mode⟩

end Requirement

/-- The version that an enabled flag requires of an artifact. -/
structure Contract (ν : Type) where
  artifact : ν
  version : ν
  mode : ContractMode
deriving DecidableEq, Repr

namespace Contract

variable {ν : Type} [Label ν]

/-- The contract of a requirement on an artifact. -/
def ofRequirement (artifact : ν) (requirement : Requirement) : Contract ν :=
  ⟨artifact, Label.ofText requirement.version, requirement.mode⟩

/-- The contract that a requirement text lays on an artifact. -/
def parse (artifact : ν) (requirement : String) : Except Error (Contract ν) := do
  return ofRequirement artifact (← Requirement.parse requirement)

/-- The requirement text of a contract. -/
def requirement (contract : Contract ν) : ν :=
  match contract.mode with
  | .exact => Label.ofText ("=" ++ Label.shown contract.version)
  | _ => contract.version

/-- Whether two contracts say the same. -/
def agrees (first second : Contract ν) : Bool :=
  Label.agrees first.artifact second.artifact && Label.agrees first.version second.version &&
    first.mode.toDocument.same second.mode.toDocument

/-- The finding that a declared version is not the pinned one. -/
def mismatch (contract : Contract ν) (found : ν) : Error :=
  .versionMismatch (Label.document contract.version) (Label.document found)
    (Label.document contract.artifact)

/-- The finding that a declared version is outside the compatible range. -/
def incompatibility (contract : Contract ν) (found : ν) : Error :=
  .incompatibleVersion (Label.document contract.version) (Label.document found)
    (Label.document contract.artifact)

/-- Holds a declared version against a contract. -/
def check (contract : Contract ν) (found : ν) : Except Error Unit :=
  match contract.mode with
  | .exact =>
    if Label.agrees found contract.version then .ok () else .error (contract.mismatch found)
  | .compatible => do
    let required ← Version.parse (Label.shown contract.version)
    match Version.parse (Label.shown found) with
    | .error _ => throw (contract.incompatibility found)
    | .ok declared =>
      if declared.Satisfies required then return () else throw (contract.incompatibility found)
  | .other name => .error (.fault (.unknownContractMode name))

end Contract

end FeatureResolution
