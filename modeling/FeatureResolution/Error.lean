import FeatureResolution.Document.Shown

/-!
# Errors

Two kinds of failure are told apart.

* A `Refusal` is a finding about flags and pins: the flag table is broken (`RegistryError`), a
  declared version violates a contract (`PinError`), or two exclusive flags meet. A command ends
  with such a finding in an orderly way.
* A `Fault` says that a value did not have the form that the work on it needs: text that is no
  version, a missing field, a list where a map was due.

Each case holds the cause, names and versions as the documents they were given by; the wording is in
the `message` functions alone.
-/

namespace FeatureResolution

/-- Two results are the same when both succeed with one value or fail with one error. -/
instance decideEqResult {ε α : Type} [DecidableEq ε] [DecidableEq α] :
    DecidableEq (Except ε α)
  | .ok a, .ok b => if same : a = b then isTrue (by rw [same]) else isFalse (by simp [same])
  | .error a, .error b => if same : a = b then isTrue (by rw [same]) else isFalse (by simp [same])
  | .ok _, .error _ | .error _, .ok _ => isFalse nofun

/-- What is wrong with a table of flags, or with a name looked up in it. -/
inductive RegistryError where
  | unknownFlag (name : Document)
  | duplicateFlag (name : Document)
  | implicationCycle (cycle : List String)
  | badManifest (source detail : Document)
deriving DecidableEq, Repr

/-- How an artifact reference violates a contract. The artifact is null where none is known. -/
inductive PinError where
  | versionMismatch (required found artifact : Document)
  | incompatibleVersion (required found artifact : Document)
  | missingArtifact (flag artifact : Document)
deriving DecidableEq, Repr

/-- A finding about flags and pins. -/
inductive Refusal where
  | registry (error : RegistryError)
  | pin (error : PinError)
  | conflict (first second : Document)
deriving DecidableEq, Repr

/-- At which stage of its reading a text turned out to be no document: at a character, in a word, in
the order of the words, in a reference from one place to another, or in a value. -/
inductive SyntaxStage where
  | character
  | word
  | order
  | reference
  | value
deriving DecidableEq, Repr

/-- A value of the wrong form. -/
inductive Fault where
  /-- A text that is no dotted numeric version. -/
  | notVersion (text : String)
  /-- A version component with more digits than a number may have. -/
  | numeralTooLong (digits : Nat)
  /-- A whole number that is too long to be written out. -/
  | numberTooLong
  /-- A text that is no whole number in a base. -/
  | notWhole (base : Nat) (text : Scalar)
  /-- A text that is no decimal number. -/
  | notDecimal (text : Scalar)
  /-- A whole number beyond all decimal numbers. -/
  | beyondDecimals
  /-- A word that is no truth value. -/
  | notTruth (word : Scalar)
  /-- A number without any character. -/
  | emptyNumber
  /-- A timestamp that is no day or time. -/
  | badTimestamp (problem : String)
  /-- An escape for a number that no character has. -/
  | noCharacter
  /-- An escape for a number that is no number of a character by far. -/
  | farFromCharacter
  /-- A contract of a kind that no check knows. -/
  | unknownContractMode (mode : Document)
  /-- A build mode that is neither of the two. -/
  | unknownBuildMode (mode : Document)
  /-- An output format that is none of the three. -/
  | unknownFormat (format : Document)
  /-- An artifact argument without name, sign or version. -/
  | malformedArtifact (argument : String)
  /-- A conflict with fewer than two members. -/
  | pairTooShort (found : Nat)
  /-- A conflict with more than two members. -/
  | pairTooLong
  /-- An entry, other than a name and a value, in a list that stands for a map. -/
  | entryLength (index length : Nat)
  /-- A map without a field that is needed. -/
  | missingField (key : String)
  /-- A value that cannot be taken apart, compared or put in order as needed. -/
  | wrongShape
  /-- A value that lacks an operation applied to it. -/
  | missingOperation
  /-- Something inside itself, or inside too much else. -/
  | tooDeep
  /-- A directory where a file is needed. -/
  | isDirectory
  /-- A path that the system refuses to follow. -/
  | unusablePath
  /-- A path with a null character. -/
  | nullInPath
  /-- A file whose text is no document. -/
  | unparsable (stage : SyntaxStage)
deriving DecidableEq, Repr

/-- Any failure. -/
inductive Error where
  | refused (refusal : Refusal)
  | fault (fault : Fault)
deriving DecidableEq, Repr

namespace Error

/-! ## Short forms -/

/-- A name that is no declared flag. -/
abbrev unknownFlag (name : Document) : Error :=
  .refused (.registry (.unknownFlag name))

/-- A name declared twice. -/
abbrev duplicateFlag (name : Document) : Error :=
  .refused (.registry (.duplicateFlag name))

/-- Flags that imply each other in a circle. -/
abbrev implicationCycle (cycle : List String) : Error :=
  .refused (.registry (.implicationCycle cycle))

/-- A manifest that cannot be used. -/
abbrev badManifest (source detail : String) : Error :=
  .refused (.registry (.badManifest (.text source) (.text detail)))

/-- An exact pin that another version was declared for. -/
abbrev versionMismatch (required found artifact : Document) : Error :=
  .refused (.pin (.versionMismatch required found artifact))

/-- A declared version outside a compatible range. -/
abbrev incompatibleVersion (required found artifact : Document) : Error :=
  .refused (.pin (.incompatibleVersion required found artifact))

/-- An artifact that a flag needs and no version was declared for. -/
abbrev missingArtifact (flag artifact : Document) : Error :=
  .refused (.pin (.missingArtifact flag artifact))

/-- Two exclusive flags that are both enabled. -/
abbrev conflict (first second : Document) : Error :=
  .refused (.conflict first second)

/-- A value that cannot be taken apart, compared or put in order as needed. -/
abbrev wrongShape : Error :=
  .fault .wrongShape

end Error

/-- Checks that something can be written out. -/
def needWritable (writable : Bool) : Except Error Unit :=
  if writable then .ok () else .error (.fault .numberTooLong)

/-! ## Wording -/

/-- The name of the artifact concerned, with what introduces it; nothing when there is none. -/
def artifactLabel (before after : String) (artifact : Document) : String :=
  if artifact.truthy then before ++ artifact.shown ++ after else ""

/-- The wording of a broken flag table. -/
def RegistryError.message : RegistryError → String
  | .unknownFlag name => "Unknown flag: '" ++ name.shown ++ "'"
  | .duplicateFlag name => "Flag declared more than once: '" ++ name.shown ++ "'"
  | .implicationCycle cycle => "Implication cycle: " ++ String.intercalate " -> " cycle
  | .badManifest source detail =>
    "Invalid manifest '" ++ source.shown ++ "': " ++ detail.shown

/-- The wording of a violated contract. -/
def PinError.message : PinError → String
  | .versionMismatch required found artifact =>
    "Exact pin violated" ++ artifactLabel " for " "" artifact ++ ": required =" ++
      required.shown ++ ", found " ++ found.shown
  | .incompatibleVersion required found artifact =>
    "Incompatible version" ++ artifactLabel " for " "" artifact ++ ": required ^" ++
      required.shown ++ ", found " ++ found.shown
  | .missingArtifact flag artifact =>
    "No artifact reference supplied for flag '" ++ flag.shown ++ "'" ++
      artifactLabel " (needs artifact '" "')" artifact

/-- The wording of a finding. -/
def Refusal.message : Refusal → String
  | .registry broken => broken.message
  | .pin violated => violated.message
  | .conflict first second =>
    "Mutually exclusive flags both enabled: '" ++ first.shown ++ "' and '" ++ second.shown ++ "'"

/-- How much of a quoted text is shown where it is no whole number. -/
def quotedLimit : Nat := 200

/-- The wording of a fault. -/
def Fault.message : Fault → String
  | .notVersion text => "Not a version: '" ++ text ++ "'"
  | .numeralTooLong digits =>
    "Exceeds the limit (4300 digits) for integer string conversion: value has " ++
      toString digits ++ " digits; use sys.set_int_max_str_digits() to increase the limit"
  | .numberTooLong =>
    "Exceeds the limit (4300 digits) for integer string conversion; " ++
      "use sys.set_int_max_str_digits() to increase the limit"
  | .notWhole base text =>
    "invalid literal for int() with base " ++ toString base ++ ": " ++
      String.ofList (text.written.toList.take quotedLimit)
  | .notDecimal text => "could not convert string to float: " ++ text.written
  | .beyondDecimals => "number too large for a decimal"
  | .notTruth word => word.written
  | .emptyNumber => "string index out of range"
  | .badTimestamp problem => problem
  | .noCharacter => "chr() arg not in range(0x110000)"
  | .farFromCharacter => "number too large for a character"
  | .unknownContractMode mode => "Unknown contract mode: " ++ mode.shown
  | .unknownBuildMode mode => "Unknown build mode: " ++ mode.shown
  | .unknownFormat format =>
    "Unknown output format: " ++ format.shown ++ " (expected one of list, cargo, mask)"
  | .malformedArtifact argument =>
    "Artifact reference must look like NAME=VERSION, got '" ++ argument ++ "'"
  | .pairTooShort found =>
    "not enough values to unpack (expected 2, got " ++ toString found ++ ")"
  | .pairTooLong => "too many values to unpack (expected 2)"
  | .entryLength index length =>
    "dictionary update sequence element #" ++ toString index ++ " has length " ++
      toString length ++ "; 2 is required"
  | .missingField key => Text.quote key
  | .wrongShape => "value of the wrong shape"
  | .missingOperation => "operation not available on this value"
  | .tooDeep => "too many levels"
  | .isDirectory => "is a directory"
  | .unusablePath => "path cannot be followed"
  | .nullInPath => "embedded null byte"
  | .unparsable _ => "not a document"

/-- The wording of any failure. -/
def Error.message : Error → String
  | .refused finding => finding.message
  | .fault cause => cause.message

end FeatureResolution
