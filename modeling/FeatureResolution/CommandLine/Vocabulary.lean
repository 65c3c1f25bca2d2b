import FeatureResolution.Error

/-!
# Vocabulary of the command line

The commands and options that a command line is made of, and what can be wrong with one.
-/

namespace FeatureResolution.CommandLine

/-- What the program can be told to do. -/
inductive Command where
  | resolve
  | validate
  | surface
  | build
  | flags
  | checkRelease
deriving DecidableEq, Repr

namespace Command

/-- The name of a command. -/
def name : Command → String
  | .resolve => "resolve"
  | .validate => "validate"
  | .surface => "surface"
  | .build => "build"
  | .flags => "flags"
  | .checkRelease => "check-release"

/-- The commands, in the order in which they are offered. -/
def all : List Command :=
  [.resolve, .validate, .surface, .build, .flags, .checkRelease]

/-- The command of a given name. -/
def ofName? (name : String) : Option Command :=
  all.find? (·.name = name)

/-- Whether a command works on a profile. -/
def needsProfile : Command → Bool
  | .build | .flags => true
  | _ => false

end Command

/-- The options of the command line, the request for help apart. -/
inductive Switch where
  | manifest
  | features
  | noDefaultFeatures
  | artifact
  | mode
  | format
  | profile
  | profileFile
  | explain
deriving DecidableEq, Repr

namespace Switch

/-- The written form of an option. -/
def name : Switch → String
  | .manifest => "--manifest"
  | .features => "--features"
  | .noDefaultFeatures => "--no-default-features"
  | .artifact => "--artifact"
  | .mode => "--mode"
  | .format => "--format"
  | .profile => "--profile"
  | .profileFile => "--profile-file"
  | .explain => "--explain"

/-- The options in the order in which they are declared. -/
def all : List Switch :=
  [.manifest, .features, .noDefaultFeatures, .artifact, .mode, .format, .profile, .profileFile,
    .explain]

/-- Whether an option has a value. -/
def takesValue : Switch → Bool
  | .noDefaultFeatures | .explain => false
  | _ => true

end Switch

/-- The value of an option: a text, or nothing where the separator was written in the place of the
value. -/
inductive OptionValue where
  | text (value : String)
  | nothing
deriving DecidableEq, Repr

namespace OptionValue

/-- The word that ends the options of a command line. -/
def separator : String := "--"

/-- The value that is written after an option. -/
def ofText (value : String) : OptionValue :=
  if value = separator then .nothing else .text value

/-- The text of a value, if it has one. -/
def text? : OptionValue → Option String
  | .text value => some value
  | .nothing => none

end OptionValue

/-- What is wrong with a command line. -/
inductive Misuse where
  /-- An option name cut so short that several options have it. -/
  | ambiguous (word : String) (candidates : List String)
  /-- An option without the value it takes. -/
  | missingValue (option : String)
  /-- A value for an option that takes none. -/
  | ignoredValue (option value : String)
  /-- A value outside the offered ones. -/
  | invalidChoice (argument value : String) (choices : List String)
  /-- No command. -/
  | missingCommand
  /-- Words that mean nothing. -/
  | unrecognized (words : List String)
  /-- A command on a profile without a profile. -/
  | missingProfile (command : Command)
  /-- A declared artifact version that cannot be read. -/
  | badArtifact (cause : Error)
deriving DecidableEq, Repr

/-- The wording of a complaint. -/
def Misuse.message : Misuse → String
  | .ambiguous word candidates =>
    "ambiguous option: " ++ word ++ " could match " ++ String.intercalate ", " candidates
  | .missingValue option => "argument " ++ option ++ ": expected one argument"
  | .ignoredValue option value =>
    "argument " ++ option ++ ": ignored explicit argument " ++ Text.quote value
  | .invalidChoice argument value choices =>
    "argument " ++ argument ++ ": invalid choice: " ++ Text.quote value ++ " (choose from " ++
      String.intercalate ", " (choices.map Text.quote) ++ ")"
  | .missingCommand => "the following arguments are required: command"
  | .unrecognized words => "unrecognized arguments: " ++ String.intercalate " " words
  | .missingProfile command => command.name ++ " requires --profile or --profile-file"
  | .badArtifact cause => cause.message

/-- Why no arguments come out of a command line: help was asked for, something is wrong with the
command line, or a value in it cannot be worked on at all. -/
inductive Stop where
  | help
  | misuse (misuse : Misuse)
  | fault (fault : Fault)
deriving DecidableEq, Repr

end FeatureResolution.CommandLine
