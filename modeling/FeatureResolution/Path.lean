import FeatureResolution.Text.Blank

/-!
# File paths

A path is a root and the parts below it. Reading a path drops empty parts and parts `.`, so a
path's text is in normal form; `..` stays, because where it leads depends on the files. Exactly two
slashes at the front are a root of their own.
-/

namespace FeatureResolution

/-- Where a path starts. -/
inductive PathRoot where
  | relative
  | root
  | doubleRoot
deriving DecidableEq, Repr

/-- A file path in normal form. -/
structure Path where
  start : PathRoot
  parts : List String
deriving DecidableEq, Repr

namespace Path

/-- The pieces of a path's text between its slashes, empty ones included. -/
def segments (text : String) : List String :=
  (Text.pieces (· == '/') text.toList).map String.ofList

/-- Where a path with the given text starts. -/
def startOf (text : String) : PathRoot :=
  match (text.toList.takeWhile (· == '/')).length with
  | 0 => .relative
  | 2 => .doubleRoot
  | _ => .root

/-- Reads a path. -/
def ofText (text : String) : Path :=
  ⟨startOf text, (segments text).filter fun part => part != "" && part != "."⟩

/-- The text of a path. -/
def text (path : Path) : String :=
  let body := String.intercalate "/" path.parts
  match path.start with
  | .root => "/" ++ body
  | .doubleRoot => "//" ++ body
  | .relative => if path.parts.isEmpty then "." else body

/-- Whether a path starts at the root. -/
def isAbsolute (path : Path) : Bool :=
  path.start != .relative

/-- A path taken from a directory; an absolute path stands for itself. -/
def join (directory path : Path) : Path :=
  if path.isAbsolute then path else ⟨directory.start, directory.parts ++ path.parts⟩

/-- The last part of a path. -/
def name (path : Path) : String :=
  path.parts.getLast?.getD ""

/-- Splits a name at its last dot, unless that is its first or last character. -/
def splitName (name : String) : String × String :=
  let chars := name.toList
  let afterDot := (chars.reverse.takeWhile (· != '.')).reverse
  let stem := chars.take (chars.length - afterDot.length - 1)
  if chars.contains '.' && !afterDot.isEmpty && !stem.isEmpty then
    (String.ofList stem, String.ofList ('.' :: afterDot))
  else (name, "")

/-- The sibling of a path whose name has a word put before the suffix. -/
def withWord (path : Path) (word : String) : Path :=
  let (stem, suffix) := splitName path.name
  { path with parts := path.parts.dropLast ++ [stem ++ word ++ suffix] }

end Path

end FeatureResolution
