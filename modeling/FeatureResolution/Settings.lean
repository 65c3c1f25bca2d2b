import FeatureResolution.Document.Access
import FeatureResolution.Document.Merge
import FeatureResolution.FileTree
import FeatureResolution.Installation
import FeatureResolution.Text.Blank

/-!
# Settings

Settings come in layers: built-in defaults, a settings file, and, where the environment asks for
local settings, the file beside it with `.local` in its name. Each layer is laid over the ones
below. Paths in settings are relative to the installation's root directory.
-/

namespace FeatureResolution

/-- The environment variables that settings look at: the settings file, and which layer to add. -/
structure Environment where
  config : Option String := none
  layer : Option String := none
deriving DecidableEq, Repr

/-- What a command sees of the machine it runs on: the installation's root directory, the files and
the environment. -/
structure Host where
  root : String
  files : FileTree
  environment : Environment

namespace Host

/-- A path below the installation's root directory. -/
def installed (host : Host) (path : String) : Path :=
  (Path.ofText host.root).join (Path.ofText path)

/-- The settings before any file is read. -/
def defaultSettings (host : Host) : Document :=
  .map [
    (.text "registry",
      .map [(.text "manifest", .text (host.installed Installation.manifestFile).text)]),
    (.text "profiles",
      .map [(.text "dir", .text (host.installed Installation.profileDirectory).text)]),
    (.text "build", .map [(.text "mode", .text "release"), (.text "default_features", .bool true)]),
    (.text "output", .map [(.text "format", .text "list")])]

/-- The settings file. -/
def settingsPath (host : Host) : Path :=
  match host.environment.config with
  | some path => .ofText path
  | none => host.installed Installation.settingsFile

/-- Whether the environment asks for local settings. -/
def wantsLocal (host : Host) : Bool :=
  Text.trim (host.environment.layer.getD "") == "local"

/-- The document in a settings file; one that counts as false is no settings at all. -/
def readLayer : Node → Except Error Document
  | .directory => .error (.fault .isDirectory)
  | .file (.error fault) => .error (.fault fault)
  | .file (.ok document) => .ok (if document.truthy then document else .map [])

/-- Lays the settings in a file over others, if there is such a file. -/
def addLayer (host : Host) (path : Path) (settings : Document) : Except Error Document := do
  match ← host.files.find? path with
  | none => return settings
  | some node => settings.merge (← readLayer node)

/-- The settings in force. -/
def settings (host : Host) : Except Error Document := do
  let base ← host.addLayer host.settingsPath host.defaultSettings
  if host.wantsLocal then host.addLayer (host.settingsPath.withWord ".local") base
  else return base

/-- Without a settings file the built-in settings are in force, unless there are local ones. -/
theorem settings_of_missing {host : Host} (missing : host.files.find host.settingsPath = .missing)
    (alone : host.wantsLocal = false) : host.settings = .ok host.defaultSettings := by
  rw [settings, addLayer, FileTree.find?_eq_none missing, alone]
  rfl

/-- The document in a settings file is laid over the built-in settings. -/
theorem settings_of_found {host : Host} {parts : List String} {document settings : Document}
    (stands : host.files.find host.settingsPath = .found parts (.file (.ok document)))
    (counts : document.truthy = true) (merged : host.defaultSettings.merge document = .ok settings)
    (alone : host.wantsLocal = false) : host.settings = .ok settings := by
  have based : host.addLayer host.settingsPath host.defaultSettings = .ok settings := by
    rw [addLayer, FileTree.find?_eq_some stands]
    change host.defaultSettings.merge (if document.truthy then document else .map []) = _
    rw [if_pos counts, merged]
  rw [Host.settings, based, alone]
  rfl

/-- A path from the settings. -/
def resolvePath (host : Host) (value : Document) : Except Error Path :=
  match value with
  | .scalar value => value.asText?.elim (.error .wrongShape) fun path => .ok (host.installed path)
  | _ => .error .wrongShape

/-- The manifest that the settings name. -/
def manifestPath (host : Host) (settings : Document) : Except Error Path := do
  host.resolvePath (← (← settings.field "registry").field "manifest")

/-- The file of a profile in the directory that the settings name. -/
def profilePath (host : Host) (settings : Document) (profile : Document) : Except Error Path := do
  let directory ← host.resolvePath (← (← settings.field "profiles").field "dir")
  return directory.join (.ofText (profile.shown ++ ".yaml"))

end Host

end FeatureResolution
