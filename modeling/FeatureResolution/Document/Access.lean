import FeatureResolution.NameSet

/-!
# Reading documents of unknown shape

Each reader says what it needs of a document and which fault stands for the lack of it: a field of
a map, the elements of anything that can be run through, names as elements, a text to trim.
-/

namespace FeatureResolution.Document

/-- The value of a field that has to be there. -/
def field (key : String) (document : Document) : Except Error Document :=
  match document.opened with
  | .map fields =>
    match lookup (.text key) fields with
    | some value => .ok value
    | none => .error (.fault (.missingField key))
  | _ => .error .wrongShape

/-- The value of a field that may be absent. -/
def field? (key : String) (document : Document) : Except Error (Option Document) :=
  match document.opened with
  | .map fields => .ok (lookup (.text key) fields)
  | _ => .error (.fault .missingOperation)

/-- The fields of a map. -/
def fields (document : Document) : Except Error (List (Scalar × Document)) :=
  match document.opened with
  | .map fields => .ok fields
  | _ => .error (.fault .missingOperation)

/-- What running through a document yields: the items of a list or a pair, the names of a map's
fields, the members of a set, the characters of a text, the numbers of bytes. -/
def elements (document : Document) : Except Error (List Document) :=
  match document.opened with
  | .list items => .ok items
  | .map fields => .ok (fields.map fun entry => .scalar entry.1)
  | .set members => .ok (members.map .scalar)
  | .pair first second => .ok [first, second]
  | .text value => .ok (value.toList.map fun c => .text (String.singleton c))
  | .scalar (.brokenText codes) => .ok (codes.map fun code => .scalar (.ofCodes [code]))
  | .scalar (.bytes bytes) => .ok (bytes.map fun byte => .int byte.toNat)
  | _ => .error .wrongShape

/-- A document as a text that can be trimmed or cut. -/
def asText : Document → Except Error String
  | .scalar value => value.asText?.elim (.error (.fault .missingOperation)) .ok
  | _ => .error (.fault .missingOperation)

/-- A document as the name of a field. -/
def asFieldName : Document → Except Error Scalar
  | .scalar value => .ok value
  | _ => .error .wrongShape

/-- The elements of a document as a set of names; lists and maps cannot be members of a set. -/
def names {ν : Type} [Label ν] (document : Document) : Except Error (NameSet ν) := do
  let members ← (← document.elements).mapM fun element => do
    Label.key (← Label.ofDocument element : ν)
  return .ofList members

/-- One entry of a list that stands for a map: a name and a value. -/
def mapEntry (index : Nat) (entry : Document) : Except Error (Scalar × Document) := do
  match ← entry.elements with
  | [key, value] => return (← key.asFieldName, value)
  | others => throw (.fault (.entryLength index others.length))

/-- Puts the entries of a list into a map, later ones over earlier ones. -/
def assignEntries (index : Nat) (known : List (Scalar × Document)) :
    List Document → Except Error (List (Scalar × Document))
  | [] => .ok known
  | entry :: rest => do
    let (key, value) ← mapEntry index entry
    assignEntries (index + 1) (assign key value known) rest

/-- A document as a map: a map itself, or a list of entries. -/
def asMap (document : Document) : Except Error (List (Scalar × Document)) :=
  match document.opened with
  | .map fields => .ok fields
  | other => do assignEntries 0 [] (← other.elements)

end FeatureResolution.Document
