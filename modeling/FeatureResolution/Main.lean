import FeatureResolution.CommandLine
import FeatureResolution.Shipped
import FeatureResolution.Yaml

/-!
# The program

Runs one command line on the real machine. A run reads at most a settings file, the local settings
beside it, a manifest and a profile; which files these are follows from the arguments, the
environment and the settings, so they are read in two rounds, and the run itself is a function of
what was read. The directory of the executable is the installation's root directory.
-/

namespace FeatureResolution.Program

/-- The parts of a path from the root, with `..` taken away. -/
def position (current : List String) (path : Path) : List String :=
  ((if path.isAbsolute then [] else current) ++ path.parts).foldl
    (fun parts part => if part = ".." then parts.dropLast else parts ++ [part]) []

/-- What stands at a path on the machine. -/
def readNode (path : String) : IO (Option Node) := do
  try
    let text ← IO.FS.readFile path
    return some (.file (Yaml.read text))
  catch
    | .noFileOrDirectory .. => return none
    | .inappropriateType .. => return some .directory
    | _ => return some (.file (.error .unusablePath))

/-- Reads the files at the given paths into a tree. -/
def readAll (tree : FileTree) (paths : List Path) : IO FileTree :=
  paths.foldlM
    (fun tree path => do
      let parts := position tree.current path
      match ← readNode (Path.text ⟨.root, parts⟩) with
      | some node => return tree.put parts node
      | none => return tree)
    tree

/-- The files that settings are read from. -/
def settingsFiles (host : Host) : List Path :=
  [host.settingsPath, host.settingsPath.withWord ".local"]

/-- The manifest and the profile that a command line and the settings lead to. -/
def namedFiles (host : Host) (words : List String) : List Path :=
  let settings := host.settings.toOption.getD .null
  let manifest := (host.manifestPath settings).toOption.toList
  match CommandLine.Arguments.parse words with
  | .error _ => []
  | .ok arguments =>
    let profile :=
      (arguments.profile.bind fun name => (host.profilePath settings (.text name)).toOption).toList
    let files := arguments.manifest.toList ++
      (arguments.profileFile.bind CommandLine.OptionValue.text?).toList
    manifest ++ profile ++ files.map .ofText

/-- The machine as a command line sees it. -/
def readHost (words : List String) : IO Host := do
  let current := (Path.ofText (toString (← IO.currentDir))).parts
  let root := toString (← IO.appDir)
  let environment : Environment :=
    { config := ← IO.getEnv "FLAGPIN_CONFIG", layer := ← IO.getEnv "FLAGPIN_ENV" }
  let shipped := ((FileTree.mk current []).put current .directory).install (Path.ofText root).parts
  let bare : Host := { root, files := shipped, environment }
  let configured : Host := { bare with files := ← readAll shipped (settingsFiles bare) }
  return { configured with files := ← readAll configured.files (namedFiles configured words) }

end FeatureResolution.Program

/-- Runs the command line given to the program. -/
def main (words : List String) : IO UInt32 := do
  let host ← FeatureResolution.Program.readHost words
  let (outcome, _) := FeatureResolution.CommandLine.run host none words
  IO.print outcome.printed
  IO.eprint outcome.diagnostics
  match outcome.ending with
  | .status code => return code.toUInt32
  | .escaped error =>
    IO.eprintln error.message
    return 1
