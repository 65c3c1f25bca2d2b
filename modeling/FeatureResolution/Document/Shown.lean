import FeatureResolution.Document.Web

/-!
# Documents in messages

`Document.shown` is the text of a document inside a sentence: a simple value is shown as such, and
collections are written out by `Document.written`, in brackets and braces and with quoted texts.
Where a collection stands inside itself only its brackets are written. A document can be written out
unless a number in it is too long (`Document.isWritable`).
-/

namespace FeatureResolution

/-- Texts in brackets. -/
def bracketed (parts : List String) : String :=
  "[" ++ String.intercalate ", " parts ++ "]"

/-- Texts in braces. -/
def braced (parts : List String) : String :=
  "\x7b" ++ String.intercalate ", " parts ++ "\x7d"

/-- Two texts in parentheses. -/
def paired (first second : String) : String :=
  "(" ++ first ++ ", " ++ second ++ ")"

/-- The name and the value of a field. -/
def fieldWritten (name : Scalar) (value : String) : String :=
  name.written ++ ": " ++ value

/-- A set written out; an empty one would look like a map. -/
def setWritten (members : List Scalar) : String :=
  if members.isEmpty then "set()" else braced (members.map Scalar.written)

/-- What is written of a collection inside itself. -/
def Cell.ellipsis : Cell → String
  | .map _ | .set _ => "\x7b...\x7d"
  | .pair .. => "(...)"
  | .list _ | .scalar _ => "[...]"

/-- The cell at a place of a web written out, inside the cells at the given places. -/
def Web.written (web : Web) : Nat → List Nat → Nat → String
  | 0, _, _ => ""
  | fuel + 1, around, place =>
    let cell := web[place]?.getD (.scalar .null)
    let inner := written web fuel (place :: around)
    if around.contains place then cell.ellipsis
    else
      match cell with
      | .scalar value => value.written
      | .list items => bracketed (items.map inner)
      | .map fields => braced (fields.map fun (name, value) => fieldWritten name (inner value))
      | .set members => setWritten members
      | .pair first second => paired (inner first) (inner second)

namespace Document

mutual
/-- A document written out, texts in quotes. -/
def written : Document → String
  | .scalar value => value.written
  | .list items => bracketed (writtenItems items)
  | .map fields => braced (writtenFields fields)
  | .set members => setWritten members
  | .pair first second => paired (written first) (written second)
  | .knot web place => web.written (web.size + 2) [] place

/-- The items of a list, each written out. -/
def writtenItems : List Document → List String
  | [] => []
  | item :: rest => written item :: writtenItems rest

/-- The fields of a map, each written as name and value. -/
def writtenFields : List (Scalar × Document) → List String
  | [] => []
  | (name, value) :: rest => fieldWritten name (written value) :: writtenFields rest
end

/-- The text of a document inside a sentence: a text stands for itself. -/
def shown : Document → String
  | .scalar value => value.shown
  | other => written other

/-! ## What can be written -/

/-- Whether a part of a web can be written out, apart from what it refers to. -/
def cellIsWritable : Cell → Bool
  | .scalar value => value.isWritable
  | .map fields => fields.all fun (name, _) => name.isWritable
  | .set members => members.all Scalar.isWritable
  | .list _ | .pair .. => true

mutual
/-- Whether a document can be written out. -/
def isWritable : Document → Bool
  | .scalar value => value.isWritable
  | .list items => areWritable items
  | .map fields => fieldsAreWritable fields
  | .set members => members.all Scalar.isWritable
  | .pair first second => isWritable first && isWritable second
  | .knot web place => (web.cellsFrom place).all cellIsWritable

/-- Whether all documents in a list can be written out. -/
def areWritable : List Document → Bool
  | [] => true
  | item :: rest => isWritable item && areWritable rest

/-- Whether all names and values of a map can be written out. -/
def fieldsAreWritable : List (Scalar × Document) → Bool
  | [] => true
  | (name, value) :: rest => name.isWritable && isWritable value && fieldsAreWritable rest
end

end Document

/-- A list of names, quoted and in brackets. -/
def quotedList (names : List String) : String :=
  bracketed (names.map Text.quote)

end FeatureResolution
