import FeatureResolution.Registry.Table
import FeatureResolution.Schema.Profile
import FeatureResolution.Settings

/-!
# Checked files

Manifests and profiles are read from files and checked against their schemas before use. Whatever
is wrong with such a file (there is none, it cannot be read, it is empty, it breaks the schema)
is reported as a bad manifest under the path it was asked for by.
-/

namespace FeatureResolution

/-! ## Schemas of an installation -/

/-- The schemas by the names of their files. -/
def Schema.shipped : List (String × Schema) :=
  [(Installation.manifestSchema, .manifest), (Installation.profileSchema, .profile)]

/-- What the system says of a path that it cannot open or read. -/
def Path.problem (path : Path) (number : Nat) (reason : String) : String :=
  "[Errno " ++ toString number ++ "] " ++ reason ++ ": " ++ Text.quote path.text

namespace Host

/-- The directory of the schemas. -/
def schemaDirectory (host : Host) : Path :=
  host.installed Installation.schemaDirectory

/-- The schema at a path below the directory of the schemas, or why there is none. A file that is no
schema begins with no value of the language that schemas are written in. -/
def schemaAt (host : Host) (path : Path) : Except String Schema :=
  match host.files.find path with
  | .missing => .error (path.problem 2 "No such file or directory")
  | .notDirectory => .error (path.problem 20 "Not a directory")
  | .refused => .error (path.problem 36 "File name too long")
  | .found _ .directory => .error (path.problem 21 "Is a directory")
  | .found parts (.file _) =>
    match Schema.shipped.find? fun (file, _) =>
        (host.schemaDirectory.join (.ofText file)).parts = parts with
    | some (_, schema) => .ok schema
    | none => .error "Expecting value: line 1 column 1 (char 0)"

/-- Checks a document against the schema of a given name; what is wrong comes out as a line. -/
def checkDocument (host : Host) (document : Document) (name : String) :
    Except Error (Option String) :=
  if name.contains (Char.ofNat 0) then .error (.fault .nullInPath)
  else
    match host.schemaAt (host.schemaDirectory.join (.ofText name)) with
    | .error problem => .ok (some ("Error loading schema file " ++ name ++ ": " ++ problem))
    | .ok schema => do return (← schema.check document).map Violation.message

end Host

/-! ## Loading -/

namespace FileTree

/-- Reads a file and checks it against a schema. Of a text that is no document nothing more is
said. -/
def load (tree : FileTree) (schema : Schema) (path : String) : Except Error Document := do
  let unreadable (problem : String) := Error.badManifest path ("YAML syntax error: " ++ problem)
  match ← tree.find? (.ofText path) with
  | none => throw (.badManifest path "file not found")
  | some .directory => throw (unreadable ((Path.ofText path).problem 21 "Is a directory"))
  | some (.file (.error (.unparsable stage))) =>
    throw (unreadable (Fault.unparsable stage).message)
  | some (.file (.error fault)) => throw (.fault fault)
  | some (.file (.ok document)) =>
    if !document.truthy then throw (.badManifest path "file is empty")
    match ← schema.check document with
    | none => return document
    | some violation => throw (.badManifest path violation.message)

/-- Reads a manifest. -/
def loadManifest (tree : FileTree) (path : String) : Except Error Document :=
  tree.load Schema.manifest path

/-- Reads a profile. -/
def loadProfile (tree : FileTree) (path : String) : Except Error Document :=
  tree.load Schema.profile path

/-- The registry that a manifest declares. -/
def loadRegistry {ν : Type} [Label ν] (tree : FileTree) (path : String) :
    Except Error (Registry ν) := do
  Registry.ofTable (← tree.loadManifest path)

end FileTree

end FeatureResolution
