import FeatureResolution.Error

/-!
# A place in a YAML text

A `Cursor` is what is left of a text together with the place reached: how many characters precede it
and in which line and column it stands. Besides the line feed three other characters end a line; a
byte order mark takes up no column. A text may be cut: what follows its last character cannot be
read.
-/

namespace FeatureResolution.Yaml

/-- Whether a character ends a line. -/
def isBreak (c : Char) : Bool :=
  let code := c.toNat
  code == 0x0A || code == 0x85 || code == 0x2028 || code == 0x2029

/-- Whether a place is at the end of a line or of the text. -/
def endsLine : Option Char → Bool
  | none => true
  | some c => isBreak c

/-- Whether a place is at a blank or at the end of a line or of the text. -/
def endsWord : Option Char → Bool
  | none => true
  | some c => c == ' ' || c == '\t' || isBreak c

/-- Whether a place is at a space or at the end of a line or of the text. -/
def endsMark : Option Char → Bool
  | none => true
  | some c => c == ' ' || isBreak c

/-- The byte order mark. -/
def byteOrderMark : Char := Char.ofNat 0xFEFF

/-- The fault of a word that is not written as it has to be. -/
def badWord : Fault :=
  .unparsable .word

/-- The fault of a text with a character that cannot stand in one. -/
def badCharacter : Fault :=
  .unparsable .character

/-- What is left of a text, the place reached, and whether the text is cut. -/
structure Cursor where
  rest : List Char
  index : Nat := 0
  line : Nat := 0
  column : Nat := 0
  isCut : Bool := false
deriving DecidableEq, Repr

namespace Cursor

/-- The next character. -/
def peek (cursor : Cursor) : Option Char :=
  cursor.rest.head?

/-- The character after some others. -/
def peekAt (cursor : Cursor) (offset : Nat) : Option Char :=
  cursor.rest[offset]?

/-- Whether the next character is a given one. -/
def isAt (cursor : Cursor) (c : Char) : Bool :=
  cursor.peek == some c

/-- The place after the next character. -/
def next (cursor : Cursor) : Cursor :=
  match cursor.rest with
  | [] => cursor
  | c :: rest =>
    if isBreak c then
      { cursor with rest, index := cursor.index + 1, line := cursor.line + 1, column := 0 }
    else if c = byteOrderMark then { cursor with rest, index := cursor.index + 1 }
    else { cursor with rest, index := cursor.index + 1, column := cursor.column + 1 }

/-- The place after a number of characters. -/
def skip (cursor : Cursor) : Nat → Cursor
  | 0 => cursor
  | count + 1 => cursor.next.skip count

/-- The next characters as long as they pass a test. -/
def run (cursor : Cursor) (test : Char → Bool) : List Char :=
  cursor.rest.takeWhile test

/-- The place after the next characters that pass a test. -/
def skipWhile (cursor : Cursor) (test : Char → Bool) : Cursor :=
  cursor.skip (cursor.run test).length

/-- The place after the next spaces. -/
def skipSpaces (cursor : Cursor) : Cursor :=
  cursor.skipWhile (· == ' ')

/-- The place after a comment, if one starts here. -/
def skipComment (cursor : Cursor) : Cursor :=
  if cursor.isAt '#' then cursor.skipWhile fun c => !isBreak c else cursor

/-- The line break that stands here: the line and paragraph separators stand for themselves and the
others for a line feed. -/
def lineBreak? (cursor : Cursor) : Option Char :=
  match cursor.peek with
  | some c =>
    if c.toNat = 0x2028 || c.toNat = 0x2029 then some c
    else if isBreak c then some '\n'
    else none
  | none => none

/-- Whether the text cannot be read on here. -/
def isBroken (cursor : Cursor) : Bool :=
  cursor.isCut && cursor.rest.isEmpty

/-- The fault of a word that is not written here as it has to be, or that cannot be read on. -/
def refusal (cursor : Cursor) : Fault :=
  if cursor.isBroken then badCharacter else badWord

/-- Refuses to look at a number of next characters where the text is cut before the last of
them. -/
def need (cursor : Cursor) (count : Nat) : Except Fault Unit :=
  if cursor.isCut && (cursor.rest.take count).length < count then .error badCharacter else .ok ()

/-- Whether a marker between documents stands here: one of some characters three times and then the
end of a word. -/
def isAtMarker (cursor : Cursor) (marks : List Char) : Except Fault Bool := do
  cursor.need 3
  if marks.any fun c => cursor.rest.take 3 == [c, c, c] then
    cursor.need 4
    return endsWord (cursor.peekAt 3)
  else return false

/-- Whether the beginning or the end of a document is marked here. -/
def isAtDocument (cursor : Cursor) : Except Fault Bool :=
  cursor.isAtMarker ['-', '.']

end Cursor

end FeatureResolution.Yaml
