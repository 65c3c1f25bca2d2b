import FeatureResolution.Yaml.Cursor

/-!
# Block texts

A text may stand below a `|`, which keeps its line breaks, or a `>`, which turns a single line break
between two lines that do not begin with a blank into a space. A sign after that mark says what
becomes of the line breaks at the end: `-` drops them all, `+` keeps them all, and otherwise one
stays. A digit says how far the text is indented; otherwise its first line, or an empty line before
it that is longer, decides.
-/

namespace FeatureResolution.Yaml

/-- What becomes of the line breaks at the end of a text. -/
inductive Chomping where
  | strip
  | clip
  | keep
deriving DecidableEq, Repr

/-- The chomping that a sign asks for. -/
def chomping? (c : Option Char) : Option Chomping :=
  if c = some '+' then some .keep else if c = some '-' then some .strip else none

/-- A digit that gives an indentation; zero is refused. -/
def readIncrement (cursor : Cursor) : Except Fault (Option Nat × Cursor) :=
  match cursor.peek with
  | some c =>
    if c = '0' then .error cursor.refusal
    else if c.isDigit then .ok (some (c.toNat - '0'.toNat), cursor.next)
    else .ok (none, cursor)
  | none => .ok (none, cursor)

/-- What the header of a block text says: the chomping and the digit, in either order. -/
def readHeader (cursor : Cursor) : Except Fault (Chomping × Option Nat × Cursor) := do
  let (chomping, increment, here) ←
    match chomping? cursor.peek with
    | some chomping => do
      let (increment, here) ← readIncrement cursor.next
      pure (chomping, increment, here)
    | none => do
      let (increment, here) ← readIncrement cursor
      match increment, chomping? here.peek with
      | some _, some chomping => pure (chomping, increment, here.next)
      | _, _ => pure (.clip, increment, here)
  if !endsMark here.peek then throw here.refusal
  let ending := here.skipSpaces.skipComment
  if !endsLine ending.peek then throw ending.refusal
  return (chomping, increment, ending.next)

/-- The empty lines from here on when the indentation is not known yet, the widest column reached in
them, and the place after them. -/
def leadingLines : Nat → Nat → Cursor → List Char × Nat × Cursor
  | 0, widest, cursor => ([], widest, cursor)
  | fuel + 1, widest, cursor =>
    let here := cursor.skipSpaces
    let widest := max widest here.column
    match here.lineBreak? with
    | some c =>
      let (breaks, widest, after) := leadingLines fuel widest here.next
      (c :: breaks, widest, after)
    | none => ([], widest, here)

/-- The place after at most the spaces up to a column. -/
def skipTo (indent : Nat) (cursor : Cursor) : Cursor :=
  cursor.skip (min (cursor.run (· == ' ')).length (indent - cursor.column))

/-- The empty lines from here on at a known indentation, and the place after them. -/
def emptyLines (indent : Nat) : Nat → Cursor → List Char × Cursor
  | 0, cursor => ([], cursor)
  | fuel + 1, cursor =>
    let here := skipTo indent cursor
    match here.lineBreak? with
    | some c =>
      let (breaks, after) := emptyLines indent fuel here.next
      (c :: breaks, after)
    | none => ([], here)

/-- Whether a line begins with a blank. -/
def beginsBlank (cursor : Cursor) : Bool :=
  cursor.isAt ' ' || cursor.isAt '\t'

/-- The line breaks at the end of a text that stay. -/
def chomped (chomping : Chomping) (last : Option Char) (breaks : List Char) : List Char :=
  match chomping with
  | .strip => []
  | .clip => last.toList
  | .keep => last.toList ++ breaks

/-- Reads the lines of a block text on, given the empty lines before the one that stands here.
Returns the text without and with the line breaks at its end, and the place after it. -/
def readLines (folded : Bool) (indent : Nat) (chomping : Chomping) :
    Nat → List Char → Cursor → List Char × Cursor
  | 0, _, cursor => ([], cursor)
  | fuel + 1, breaks, cursor =>
    let line := cursor.run fun c => !isBreak c
    let ending := cursor.skip line.length
    let last := ending.lineBreak?
    let (following, here) := emptyLines indent (ending.rest.length + 1) ending.next
    if here.column = indent && here.peek.isSome then
      let joint :=
        if folded && last == some '\n' && !beginsBlank cursor && !beginsBlank here then
          if following.isEmpty then [' '] else []
        else last.toList
      let (later, after) := readLines folded indent chomping fuel following here
      (breaks ++ line ++ joint ++ later, after)
    else (breaks ++ line ++ chomped chomping last following, here)

/-- The block text whose mark stands here, inside something at the given indentation. -/
def blockText (folded : Bool) (indent : Int) (cursor : Cursor) :
    Except Fault (String × Cursor) := do
  let (chomping, increment, start) ← readHeader cursor.next
  let fuel := start.rest.length + 1
  let least := max 1 (indent + 1).toNat
  let (own, breaks, first) :=
    match increment with
    | some increment =>
      let own := least + increment - 1
      (own, emptyLines own fuel start)
    | none =>
      let (breaks, widest, first) := leadingLines fuel 0 start
      (max least widest, breaks, first)
  if first.column = own && first.peek.isSome then
    let (text, after) := readLines folded own chomping fuel breaks first
    return (String.ofList text, after)
  else return (String.ofList (chomped chomping none breaks), first)

end FeatureResolution.Yaml
