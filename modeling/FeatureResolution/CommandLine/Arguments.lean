import FeatureResolution.Artifacts
import FeatureResolution.CommandLine.Word
import FeatureResolution.Flag
import FeatureResolution.Surface

/-!
# Command line arguments

A command line names one command and gives options around it. `Arguments.parse` first tells the
roles of all words, then takes them from left to right, and last checks that a command was given
and that nothing is left over; the first complaint ends it.
-/

namespace FeatureResolution.CommandLine

/-- What a command line asks for. -/
structure Arguments where
  command : Command
  manifest : Option String
  features : String
  noDefaultFeatures : Bool
  artifacts : Artifacts String
  mode : Option BuildMode
  format : Option Format
  profile : Option String
  profileFile : Option OptionValue
  explain : Bool
deriving DecidableEq, Repr

/-- What has been read of a command line. `justNamed` says that the last word was the command. -/
structure Reading where
  command : Option Command := none
  manifest : Option String := none
  features : String := ""
  noDefaultFeatures : Bool := false
  artifacts : List OptionValue := []
  mode : Option BuildMode := none
  format : Option Format := none
  profile : Option String := none
  profileFile : Option OptionValue := none
  explain : Bool := false
  leftOver : List String := []
  justNamed : Bool := false
deriving DecidableEq, Repr

namespace Reading

/-- A choice among offered values. -/
def choose {α : Type} (argument value : String) (choice : Option α) (choices : List String) :
    Except Stop α :=
  match choice with
  | some chosen => .ok chosen
  | none => .error (.misuse (.invalidChoice argument value choices))

/-- The mode that is written after its option. -/
def chooseMode (value : String) : Except Stop BuildMode :=
  choose Switch.mode.name value (BuildMode.ofName? value) (BuildMode.all.map (·.name))

/-- The format that is written after its option. -/
def chooseFormat (value : String) : Except Stop Format :=
  choose Switch.format.name value (Format.ofName? value) (Format.all.map (·.name))

/-- Takes an option with a value; the last value of an option counts, and declared artifacts
add up. -/
def assign (reading : Reading) (value : OptionValue) : Switch → Except Stop Reading
  | .manifest => .ok { reading with manifest := value.text? }
  | .features => .ok { reading with features := value.text?.getD "" }
  | .artifact => .ok { reading with artifacts := reading.artifacts ++ [value] }
  | .mode => do return { reading with mode := ← value.text?.mapM chooseMode }
  | .format => do return { reading with format := ← value.text?.mapM chooseFormat }
  | .profile => .ok { reading with profile := value.text? }
  | .profileFile => .ok { reading with profileFile := some value }
  | .noDefaultFeatures => .ok { reading with noDefaultFeatures := true }
  | .explain => .ok { reading with explain := true }

/-- Takes the command. -/
def setCommand (reading : Reading) (name : String) : Except Stop Reading := do
  let command ← choose "command" name (Command.ofName? name) (Command.all.map (·.name))
  return { reading with command := some command, justNamed := true }

/-- Leaves a word over. -/
def leave (reading : Reading) (word : String) : Reading :=
  { reading with leftOver := reading.leftOver ++ [word], justNamed := false }

/-- Takes one word. A separator is dropped before the command and right after it, and left over
anywhere else. -/
def step (reading : Reading) : Word → Except Stop Reading
  | .plain text =>
    if reading.command.isSome then .ok (reading.leave text) else reading.setCommand text
  | .separator =>
    if reading.command.isNone then .ok reading
    else if reading.justNamed then .ok { reading with justNamed := false }
    else .ok (reading.leave OptionValue.separator)
  | .unknown text => .ok (reading.leave text)
  | .help none => .error .help
  | .help (some value) => .error (.misuse (.ignoredValue "-h/--help" value))
  | .switch option (some value) =>
    if option.takesValue then do
      return { ← reading.assign (.ofText value) option with justNamed := false }
    else .error (.misuse (.ignoredValue option.name value))
  | .switch option none =>
    if option.takesValue then .error (.misuse (.missingValue option.name))
    else do return { ← reading.assign .nothing option with justNamed := false }

/-- Gives every option that takes a value the plain word after it. -/
def attachValues : List Word → List Word
  | .switch option none :: .plain value :: rest =>
    if option.takesValue then .switch option (some value) :: attachValues rest
    else .switch option none :: .plain value :: attachValues rest
  | word :: rest => word :: attachValues rest
  | [] => []

/-- Takes all words from left to right. -/
def ofWords (words : List Word) : Except Stop Reading :=
  (attachValues words).foldlM step {}

/-- The declared artifact version that an option gives. -/
def declaration : OptionValue → Except Stop String
  | .text value =>
    match Artifacts.splitDeclaration value with
    | .ok _ => .ok value
    | .error cause => .error (.misuse (.badArtifact cause))
  | .nothing => .error (.fault .missingOperation)

/-- The declared artifact versions that the options give, the first bad one in their place. -/
def declarations (reading : Reading) : Except Stop (Artifacts String) := do
  match Artifacts.parse (← reading.artifacts.mapM declaration) with
  | .ok artifacts => return artifacts
  | .error cause => throw (.misuse (.badArtifact cause))

/-- Whether a profile is named, by its name or its file. -/
def namesProfile (reading : Reading) : Bool :=
  let given (text : Option String) : Bool := !(text.getD "").isEmpty
  given reading.profile || given (reading.profileFile.bind OptionValue.text?)

/-- What a reading asks for: it needs a command and nothing left over, a profile for a command on
profiles, and artifact versions that can be read. -/
def finish (reading : Reading) : Except Stop Arguments := do
  let some command := reading.command | throw (.misuse .missingCommand)
  if !reading.leftOver.isEmpty then throw (.misuse (.unrecognized reading.leftOver))
  if command.needsProfile && !reading.namesProfile then throw (.misuse (.missingProfile command))
  return {
    command
    artifacts := ← reading.declarations
    manifest := reading.manifest
    features := reading.features
    noDefaultFeatures := reading.noDefaultFeatures
    mode := reading.mode
    format := reading.format
    profile := reading.profile
    profileFile := reading.profileFile
    explain := reading.explain }

end Reading

/-- Reads a command line. -/
def Arguments.parse (words : List String) : Except Stop Arguments :=
  match Word.classifyAll words with
  | .error misuse => .error (.misuse misuse)
  | .ok roles => do (← Reading.ofWords roles).finish

end FeatureResolution.CommandLine
