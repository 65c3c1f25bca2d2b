import FeatureResolution.CommandLine.Commands
import FeatureResolution.SharedRegistry

/-!
# The command line

`CommandLine.run` is one run of the program: it reads the arguments, loads the settings, finds the
registry (the manifest that the arguments name, or the shared registry of the process), and carries
out the command. A finding about flags and pins ends the run with status 1 and a line of
diagnostics, a misuse of the command line with status 2; a fault is left to the caller.
-/

namespace FeatureResolution.CommandLine

/-- How a run ends: with a status, or with a fault that nothing in it handles. -/
inductive Ending where
  | status (code : Nat)
  | escaped (error : Error)
deriving DecidableEq, Repr

/-- What a run prints as its result and as diagnostics, and how it ends. -/
structure Outcome where
  printed : String
  diagnostics : String
  ending : Ending
deriving DecidableEq, Repr

/-- A short help on the command line. -/
def usage : String :=
  line ("usage: " ++ Installation.programName ++ " COMMAND [OPTION]...") ++
    line ("commands: " ++ String.intercalate ", " (Command.all.map (·.name))) ++
    line ("options: " ++ String.intercalate ", " (Switch.all.map (·.name)))

namespace Outcome

/-- The outcome of a command line that cannot be carried out. -/
def ofStop : Stop → Outcome
  | .help => ⟨usage, "", .status 0⟩
  | .misuse misuse =>
    ⟨"", line (Installation.programName ++ ": error: " ++ misuse.message), .status 2⟩
  | .fault cause => ⟨"", "", .escaped (.fault cause)⟩

/-- The outcome that a report amounts to. -/
def ofReport (report : Report) : Outcome :=
  match report.failure with
  | none => ⟨report.printed, "", .status 0⟩
  | some (.refused finding) =>
    ⟨report.printed, line ("ERROR: " ++ finding.message), .status 1⟩
  | some (.fault cause) => ⟨report.printed, "", .escaped (.fault cause)⟩

end Outcome

/-- The registry that a run works on, and what is kept of the shared one. An explicit manifest
leaves the shared registry alone. -/
def findRegistry (host : Host) (shared : SharedRegistry) (arguments : Arguments) :
    Except Error (Registry String) × SharedRegistry :=
  match arguments.manifest with
  | some path =>
    if path.isEmpty then shared.acquire host else (host.files.loadRegistry path, shared)
  | none => shared.acquire host

/-- Carries out what a command line asks for. -/
def execute (host : Host) (shared : SharedRegistry) (arguments : Arguments) :
    Outcome × SharedRegistry :=
  match host.settings with
  | .error error => (⟨"", "", .escaped error⟩, shared)
  | .ok settings =>
    match findRegistry host shared arguments with
    | (.error error, kept) => (.ofReport (.failed error), kept)
    | (.ok registry, kept) => (.ofReport (report host arguments settings registry), kept)

/-- One run of the program. -/
def run (host : Host) (shared : SharedRegistry) (words : List String) :
    Outcome × SharedRegistry :=
  match Arguments.parse words with
  | .error stop => (.ofStop stop, shared)
  | .ok arguments => execute host shared arguments

end FeatureResolution.CommandLine
