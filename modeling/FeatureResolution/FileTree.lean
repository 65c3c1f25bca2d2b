import FeatureResolution.Error
import FeatureResolution.Path

/-!
# Files

A `FileTree` is what can be read: the files, each with what reading it yields, and the
directories, by their parts from the root down. What is put into the tree gets the directories above
it. Paths are followed part by part as an operating system follows them: a part below something
that is no directory leads nowhere, `.` and an empty part stay in a directory, and `..` goes up. A
system refuses to follow a path that is too long or comes to a part that is too long.
-/

namespace FeatureResolution

/-- What stands at a path: a directory, or a file with the document in it or the fault that reading
it ends with. -/
inductive Node where
  | directory
  | file (content : Except Fault Document)
deriving DecidableEq

/-- Files and directories by their parts from the root, and the directory that relative paths start
from. -/
structure FileTree where
  current : List String
  entries : List (List String × Node)

/-- Where a path leads: to something, to nothing because a part is missing or is no directory, or
nowhere because the system does not follow it. -/
inductive Lookup where
  | found (parts : List String) (node : Node)
  | missing
  | notDirectory
  | refused
deriving DecidableEq

namespace FileTree

/-- The most bytes that a part of a path may have. -/
def partLimit : Nat := 255

/-- The most bytes that a path may have. -/
def pathLimit : Nat := 4095

/-- What stands at the given parts from the root. -/
def node? (tree : FileTree) (parts : List String) : Option Node :=
  if parts.isEmpty then some .directory else tree.entries.lookup parts

/-- Follows the pieces of a path from a position. -/
def follow (tree : FileTree) (position : List String) : List String → Lookup
  | [] =>
    match tree.node? position with
    | some node => .found position node
    | none => .missing
  | piece :: rest =>
    match tree.node? position with
    | some .directory =>
      if piece = "" || piece = "." then follow tree position rest
      else if piece = ".." then follow tree position.dropLast rest
      else if partLimit < piece.utf8ByteSize then .refused
      else follow tree (position ++ [piece]) rest
    | some (.file _) => .notDirectory
    | none => .missing

/-- Where a path leads. -/
def find (tree : FileTree) (path : Path) : Lookup :=
  if path.text.contains (Char.ofNat 0) then .missing
  else if pathLimit < path.text.utf8ByteSize then .refused
  else follow tree (if path.isAbsolute then [] else tree.current) path.parts

/-- What stands at a path, if anything does. -/
def find? (tree : FileTree) (path : Path) : Except Error (Option Node) :=
  match tree.find path with
  | .found _ node => .ok (some node)
  | .missing | .notDirectory => .ok none
  | .refused => .error (.fault .unusablePath)

/-- A path without a null character that is not too long leads where its parts lead. -/
theorem find_eq_follow {tree : FileTree} {path : Path} (sound : Char.ofNat 0 ∉ path.text.toList)
    (short : path.text.utf8ByteSize ≤ pathLimit) :
    tree.find path = follow tree (if path.isAbsolute then [] else tree.current) path.parts := by
  have noNull : ¬ path.text.contains (Char.ofNat 0) = true := by
    simpa [String.contains_char_eq] using sound
  rw [find, if_neg noNull, if_neg (Nat.not_lt.2 short)]

theorem find?_eq_some {tree : FileTree} {path : Path} {parts : List String} {node : Node}
    (found : tree.find path = .found parts node) : tree.find? path = .ok (some node) := by
  rw [find?, found]

theorem find?_eq_none {tree : FileTree} {path : Path} (missing : tree.find path = .missing) :
    tree.find? path = .ok none := by
  rw [find?, missing]

/-- Makes a directory at the given parts from the root, where nothing stands yet. -/
def makeDirectory (tree : FileTree) (parts : List String) : FileTree :=
  match tree.node? parts with
  | some _ => tree
  | none => { tree with entries := (parts, .directory) :: tree.entries }

/-- The directories above the given parts, from the root down. -/
def directoriesAbove (parts : List String) : List (List String) :=
  (List.range parts.length).map parts.take

/-- Puts something at the given parts from the root, and makes the directories above it. -/
def put (tree : FileTree) (parts : List String) (node : Node) : FileTree :=
  let above := (directoriesAbove parts).foldl makeDirectory tree
  { above with entries := (parts, node) :: above.entries.filter (·.1 != parts) }

/-- Takes away what stands at the given parts from the root. -/
def remove (tree : FileTree) (parts : List String) : FileTree :=
  { tree with entries := tree.entries.filter (·.1 != parts) }

end FileTree

end FeatureResolution
