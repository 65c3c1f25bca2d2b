import FeatureResolution.Yaml.Quoted

/-!
# Anchors, tags and directives

An anchor names a node and an alias refers to it; a tag says what a node is. A tag is a handle,
which a directive may have given a meaning, and a suffix. Directives stand in lines of their own
before a document.
-/

namespace FeatureResolution.Yaml

/-- Whether a character may stand in the name of an anchor, a handle or a directive. -/
def isNameChar (c : Char) : Bool :=
  c.isAlphanum || c == '-' || c == '_'

/-- Whether a character may stand in the suffix of a tag. -/
def isTagChar (c : Char) : Bool :=
  c.isAlphanum || c == Text.apostrophe ||
    ['-', ';', '/', '?', ':', '@', '&', '=', '+', '$', ',', '_', '.', '!', '~', '*', '(', ')', '[',
      ']'].contains c

/-- A name and the place after it. -/
def readName (cursor : Cursor) : Except Fault (String × Cursor) :=
  let name := cursor.run isNameChar
  if name.isEmpty then .error cursor.refusal else .ok (String.ofList name, cursor.skip name.length)

/-- The name after the mark of an anchor or an alias. -/
def anchorName (cursor : Cursor) : Except Fault (String × Cursor) := do
  let (name, after) ← readName cursor.next
  let ends :=
    endsWord after.peek ||
      after.peek.any fun c => ['?', ':', ',', ']', '\x7d', '%', '@', '\x60'].contains c
  if ends then return (name, after) else throw after.refusal

/-- The bytes that a row of escapes of two hexadecimal digits stands for, and the place after it. -/
def readBytes : Nat → Cursor → Except Fault (List UInt8 × Cursor)
  | 0, cursor => .ok ([], cursor)
  | fuel + 1, cursor =>
    if cursor.isAt '%' then do
      let digits := (cursor.next.rest.take 2).takeWhile fun d => (hexValue? d).isSome
      if digits.length < 2 then throw (cursor.next.skip digits.length).refusal
      let (bytes, after) ← readBytes fuel (cursor.skip 3)
      return (UInt8.ofNat (baseValue 16 digits) :: bytes, after)
    else .ok ([], cursor)

/-- The suffix of a tag read on, backwards. -/
def readSuffix : Nat → List Char → Cursor → Except Fault (List Char × Cursor)
  | 0, read, cursor => .ok (read, cursor)
  | fuel + 1, read, cursor =>
    match cursor.peek with
    | some c =>
      if c = '%' then do
        let (bytes, after) ← readBytes (cursor.rest.length + 1) cursor
        match String.fromUTF8? ⟨bytes.toArray⟩ with
        | some text => readSuffix fuel (text.toList.reverse ++ read) after
        | none => throw after.refusal
      else if isTagChar c then readSuffix fuel (c :: read) cursor.next
      else .ok (read, cursor)
    | none => .ok (read, cursor)

/-- The suffix of a tag and the place after it. -/
def tagSuffix (cursor : Cursor) : Except Fault (String × Cursor) := do
  let (read, after) ← readSuffix (cursor.rest.length + 1) [] cursor
  if read.isEmpty then throw after.refusal else return (String.ofList read.reverse, after)

/-- A handle from behind its mark: the mark alone before a space, or a name between two marks. -/
def namedHandle (behind : Cursor) : Except Fault (String × Cursor) := do
  let name := behind.run isNameChar
  let after := behind.skip name.length
  if after.isAt '!' then return (String.ofList ('!' :: name ++ ['!']), after.next)
  else if behind.isAt ' ' then return ("!", behind)
  else throw after.refusal

/-- Whether the word of a tag has a second mark; without one it is looked through to its end. -/
def hasHandle (cursor : Cursor) : Except Fault Bool := do
  let word := cursor.run fun c => !(c == ' ' || isBreak c)
  if !word.contains '!' then cursor.need (word.length + 1)
  return word.contains '!'

/-- The handle of a tag, if it needs one, its suffix and the place after it, from behind its
mark. -/
def tagParts (behind : Cursor) : Except Fault (Option String × String × Cursor) := do
  if behind.isAt '<' then
    let (suffix, after) ← tagSuffix behind.next
    if after.isAt '>' then return (none, suffix, after.next) else throw after.refusal
  if endsWord behind.peek then return (none, "!", behind)
  let (handle, start) ← if ← hasHandle behind then namedHandle behind else pure ("!", behind)
  let (suffix, after) ← tagSuffix start
  return (some handle, suffix, after)

/-- The tag that stands here: its handle, if it needs one, its suffix and the place after it. -/
def readTag (cursor : Cursor) : Except Fault (Option String × String × Cursor) := do
  let (handle, suffix, after) ← tagParts cursor.next
  if endsMark after.peek then return (handle, suffix, after) else throw after.refusal

/-- A line before a document: the version of the language, a meaning for a handle, or anything else,
which says nothing. -/
inductive Directive where
  | version (major : Nat)
  | handle (handle meaning : String)
  | other
deriving DecidableEq, Repr

/-- A number and the place after it; it must not be too long. -/
def readNumber (cursor : Cursor) : Except Fault (Nat × Cursor) :=
  let digits := cursor.run Char.isDigit
  let after := cursor.skip digits.length
  if digits.isEmpty || after.isBroken then .error after.refusal
  else if Text.digitLimit < digits.length then .error (.numeralTooLong digits.length)
  else .ok (baseValue 10 digits, after)

/-- What a directive of a given name says, and the place after it. -/
def readDirectiveBody (name : String) (cursor : Cursor) : Except Fault (Directive × Cursor) := do
  if name = "YAML" then
    let (major, after) ← readNumber cursor.skipSpaces
    if !after.isAt '.' then throw after.refusal
    let (_, after) ← readNumber after.next
    if endsMark after.peek then return (.version major, after) else throw after.refusal
  else if name = "TAG" then
    let here := cursor.skipSpaces
    if !here.isAt '!' then throw here.refusal
    let (handle, after) ← namedHandle here.next
    if !after.isAt ' ' then throw after.refusal
    let (meaning, after) ← tagSuffix after.skipSpaces
    if endsMark after.peek then return (.handle handle meaning, after) else throw after.refusal
  else return (.other, cursor.skipWhile fun c => !isBreak c)

/-- The directive that stands here and the place after its line. -/
def readDirective (cursor : Cursor) : Except Fault (Directive × Cursor) := do
  let (name, after) ← readName cursor.next
  if !endsMark after.peek then throw after.refusal
  let (directive, after) ← readDirectiveBody name after
  let ending := after.skipSpaces.skipComment
  if endsLine ending.peek then return (directive, ending.next) else throw ending.refusal

end FeatureResolution.Yaml
