import FeatureResolution.CommandLine.Arguments
import FeatureResolution.CommandLine.Report
import FeatureResolution.Profile
import FeatureResolution.Text.Upper

/-!
# Commands

What each command prints, given the registry it works on. Every command but `build` has one piece
to print, so it prints all or nothing. A build prints a heading, runs the request, and then one
phase after the other; once the request has run, only a setting that cannot be used can stop it.
-/

namespace FeatureResolution.CommandLine

/-! ## What takes effect -/

/-- Whether the default set is wanted: the command line comes before the settings. -/
def defaultFeatures (arguments : Arguments) (settings : Document) : Except Error Bool :=
  if arguments.noDefaultFeatures then .ok false
  else do
    let build ← settings.field "build"
    return ((← build.field? "default_features").getD (.bool true)).truthy

/-- The build mode that takes effect: the command line comes before the settings. -/
def effectiveMode (arguments : Arguments) (settings : Document) : Except Error Document :=
  match arguments.mode with
  | some mode => .ok (.text mode.name)
  | none => do return (← (← settings.field "build").field? "mode").getD (.text "release")

/-- The output format that takes effect: the command line comes before the settings. -/
def effectiveFormat (arguments : Arguments) (settings : Document) : Except Error Format :=
  match arguments.format with
  | some format => .ok format
  | none => do Format.parse ((← (← settings.field "output").field? "format").getD (.text "list"))

/-- The flags that the requested features enable. -/
def enabled (arguments : Arguments) (settings : Document) (registry : Registry String) :
    Except Error (NameSet String) := do
  let defaultFeatures ← defaultFeatures arguments settings
  registry.resolve (.ofList (splitFeatures arguments.features)) defaultFeatures

/-! ## Commands without a profile -/

/-- A flag and the enabled flags that imply it. -/
def explainedLine (reason : String × NameSet String) : String :=
  let via := String.intercalate ", " reason.2.toList
  line (reason.1 ++ (if via.isEmpty then "" else "  (via " ++ via ++ ")"))

/-- The enabled flags, one per line. -/
def resolved (arguments : Arguments) (settings : Document) (registry : Registry String) :
    Except Error String := do
  let capabilities ← enabled arguments settings registry
  if arguments.explain then
    return String.join ((← registry.explain capabilities).map explainedLine)
  else return line (← registry.render capabilities none .list)

/-- The confirmation that the declared versions keep the contracts. -/
def validated (arguments : Arguments) (settings : Document) (registry : Registry String) :
    Except Error String := do
  let capabilities ← enabled arguments settings registry
  let mode ← effectiveMode arguments settings
  let checked ← BuildMode.parse mode
  registry.validate capabilities arguments.artifacts.declared checked
  return line ("[OK] Artifact pins satisfied (" ++ mode.shown ++ ")")

/-- The items that the requested features expose. -/
def surfaced (arguments : Arguments) (settings : Document) (registry : Registry String) :
    Except Error String := do
  let capabilities ← enabled arguments settings registry
  let items ← registry.materialize capabilities
  let format ← effectiveFormat arguments settings
  return line (← registry.render capabilities (some items.toList) format)

/-- The confirmation that the exact pins follow the owner's version. -/
def released (registry : Registry String) : Except Error String := do
  registry.checkLockstep
  let label :=
    match registry.artifact with
    | some artifact => artifact.shown
    | none => "registry"
  return line ("[OK] Release pins in lockstep with " ++ label)

/-! ## Commands on a profile -/

/-- The request of the profile that the command line names. -/
def requested (host : Host) (arguments : Arguments) (settings : Document) :
    Except Error (Request String) :=
  let profile :=
    match arguments.profile with
    | some profile => .text profile
    | none => .null
  match arguments.profileFile with
  | none => host.loadRequest settings profile none
  | some (.text file) => host.loadRequest settings profile (some file)
  | some .nothing => .error .wrongShape

/-- The mask of a profile's build, or another format. -/
def flagged (host : Host) (arguments : Arguments) (settings : Document)
    (registry : Registry String) : Except Error String := do
  let request ← requested host arguments settings
  let result ← registry.run request
  return line (← registry.render result.capabilities none (arguments.format.getD .mask))

/-- The heading of a phase. -/
def phaseHeading (number title : String) (profile : Option String) : String :=
  let name := profile.getD ""
  let label := if name.isEmpty then "" else " (" ++ Text.upper name ++ ")"
  line "" ++ banner ++ line ("PHASE " ++ number ++ ": " ++ title ++ label) ++ banner

/-- What a build says before it runs. -/
def buildHeading (registry : Registry String) (request : Request String) : String :=
  let features := String.intercalate ", " request.features.toList
  banner ++ line ("BUILD (" ++ Text.upper request.name.shown ++ ")") ++ banner ++
    line ("Registry: " ++ registry.summary) ++
    line ("Requested: " ++ (if features.isEmpty then "(none)" else features))

/-- The last line that a build says before it runs, on the default set and the mode. -/
def modeLine (request : Request String) : Except Error String := do
  needWritable request.mode.isWritable
  return line ("Default features: " ++ (if request.defaultFeatures.truthy then "on" else "off") ++
    ", Mode: " ++ request.mode.shown)

/-- The contracts in force on the flags that a build enabled, in declaration order. -/
def enforced (registry : Registry String) (result : BuildResult String) :
    List (String × Contract String) :=
  (registry.pinned (.lenient result.request.mode)).filter fun (name, _) =>
    name ∈ result.capabilities

/-- The line on a contract that a build keeps. -/
def contractLine (artifacts : Artifacts String) (pin : String × Contract String) : String :=
  let (name, contract) := pin
  let found := (Artifacts.version? contract.artifact artifacts).getD "None"
  line ("  ✓ " ++ name ++ ": " ++ contract.artifact ++ " " ++ contract.requirement ++
    " (found " ++ found ++ ")")

/-- The section on contracts. -/
def contractSection (registry : Registry String) (result : BuildResult String) : String :=
  match enforced registry result with
  | [] => line "No artifact contracts on enabled flags"
  | pins => String.join (pins.map (contractLine result.request.artifacts))

/-- The end of a build's report. -/
def buildClosing (request : Request String) : String :=
  banner ++ line ("BUILD (" ++ Text.upper request.name.shown ++ ") COMPLETE") ++ banner

/-- What a build prints after it ran. -/
def buildSections (arguments : Arguments) (settings : Document) (registry : Registry String)
    (result : BuildResult String) : List (Except Error String) :=
  let name := some result.request.name.shown
  [.ok (phaseHeading "1" "CLOSURE" name),
   line <$> registry.render result.capabilities none .list,
   .ok (phaseHeading "2" "PINS" name ++ contractSection registry result),
   .ok (phaseHeading "3" "SURFACE" name),
   do
    let format ← effectiveFormat arguments settings
    return line (← registry.render result.capabilities (some result.items.toList) format),
   .ok (buildClosing result.request)]

/-- The pieces that a build prints. -/
def built (host : Host) (arguments : Arguments) (settings : Document) (registry : Registry String) :
    Except Error (List (Except Error String)) := do
  let request ← requested host arguments settings
  let sections :=
    match registry.run request with
    | .ok result => buildSections arguments settings registry result
    | .error error => [.error error]
  return .ok (buildHeading registry request) :: modeLine request :: sections

/-! ## All commands -/

/-- The report of a command on a registry. -/
def report (host : Host) (arguments : Arguments) (settings : Document)
    (registry : Registry String) : Report :=
  match arguments.command with
  | .resolve => .ofPieces [resolved arguments settings registry]
  | .validate => .ofPieces [validated arguments settings registry]
  | .surface => .ofPieces [surfaced arguments settings registry]
  | .build => .ofExcept (built host arguments settings registry)
  | .flags => .ofPieces [flagged host arguments settings registry]
  | .checkRelease => .ofPieces [released registry]

end FeatureResolution.CommandLine
