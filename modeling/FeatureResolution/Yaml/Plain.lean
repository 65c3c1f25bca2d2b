import FeatureResolution.Yaml.Quoted

/-!
# Plain words

A word without quotes goes on over single spaces and over line breaks, as long as the next line is
indented further than what is around the word. A colon before a blank ends it, a number sign after a
blank, and inside brackets and braces also what separates the items there.
-/

namespace FeatureResolution.Yaml

/-- Whether a character separates items or opens or closes a collection inside brackets or
braces. -/
def isFlowMark (c : Char) : Bool :=
  c == ',' || c == '[' || c == ']' || c == '\x7b' || c == '\x7d'

/-- Whether a plain word ends before a character, given the character after that. -/
def endsPlain (inFlow : Bool) (c : Char) (following : Option Char) : Bool :=
  endsWord (some c) ||
    (c == ':' && (endsWord following || (inFlow && following.any isFlowMark))) ||
    (inFlow && (isFlowMark c || c == '?'))

/-- The characters up to the end of a line's part of a plain word. -/
def plainRun (inFlow : Bool) : List Char → List Char
  | [] => []
  | c :: rest => if endsPlain inFlow c rest.head? then [] else c :: plainRun inFlow rest

/-- What stands between two parts of a plain word. -/
inductive PlainGap where
  /-- The blanks or line breaks between the parts, as they count. -/
  | within (blanks : List Char)
  /-- Nothing that a word goes on over. -/
  | none
deriving DecidableEq, Repr

/-- The empty lines from the beginning of a line on, none when a marker of a document ends them. -/
def plainEmptyLines : Nat → Cursor → Except Fault (Option (List Char) × Cursor)
  | 0, cursor => return (some [], cursor)
  | fuel + 1, cursor => do
    if ← cursor.isAtDocument then return (none, cursor)
    let here := cursor.skipSpaces
    match here.lineBreak? with
    | some c =>
      let (breaks, after) ← plainEmptyLines fuel here.next
      return (breaks.map (c :: ·), after)
    | none => return (some [], here)

/-- What follows a part of a plain word: the gap, the place after it, and whether a line ended. -/
def plainGap (fuel : Nat) (cursor : Cursor) : Except Fault (PlainGap × Cursor × Bool) := do
  let blanks := cursor.run (· == ' ')
  let here := cursor.skip blanks.length
  match here.lineBreak? with
  | some first =>
    match ← plainEmptyLines fuel here.next with
    | (some breaks, after) => return (.within (foldBreaks first breaks), after, true)
    | (none, after) => return (.none, after, true)
  | none => return (if blanks.isEmpty then .none else .within blanks, here, false)

/-- Reads a plain word on, given what has been read backwards and the gap before what follows. -/
def readPlain (inFlow : Bool) (indent : Int) :
    Nat → List Char → List Char → Bool → Cursor → Except Fault (String × Cursor × Bool)
  | 0, read, _, broken, cursor => return (String.ofList read.reverse, cursor, broken)
  | fuel + 1, read, gap, broken, cursor => do
    let part := if cursor.isAt '#' then [] else plainRun inFlow cursor.rest
    let ending := cursor.skip part.length
    if ending.isAt ':' then ending.need 2
    if part.isEmpty then return (String.ofList read.reverse, cursor, broken)
    let read := part.reverse ++ gap.reverse ++ read
    match ← plainGap fuel ending with
    | (.none, after, broken) => return (String.ofList read.reverse, after, broken)
    | (.within blanks, after, broken) =>
      if after.isAt '#' || (!inFlow && (after.column : Int) < indent) then
        return (String.ofList read.reverse, after, broken)
      else readPlain inFlow indent fuel read blanks broken after

/-- The plain word that stands here, the place after it and the blanks that follow, and whether a
line ended on the way there. Outside brackets and braces the word's lines stand at the given
indentation or further in. -/
def plainWord (inFlow : Bool) (indent : Int) (cursor : Cursor) :
    Except Fault (String × Cursor × Bool) :=
  readPlain inFlow indent (cursor.rest.length + 1) [] [] false cursor

end FeatureResolution.Yaml
