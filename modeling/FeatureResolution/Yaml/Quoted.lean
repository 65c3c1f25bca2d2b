import FeatureResolution.Yaml.Cursor

/-!
# Quoted words

Between single quotes every character stands for itself, and a quote is written twice. Between
double quotes a backslash starts an escape. In both a line break and the blanks around it count as
one space, or as the empty lines after it if there are any; a line break after a backslash counts
for nothing. A marker of a document cannot stand at the beginning of a line. A word is read as code
points, since an escape may name half of a character.
-/

namespace FeatureResolution.Yaml

/-- The characters that one letter after a backslash stands for. -/
def namedEscapes : List (Char × Nat) :=
  [('0', 0), ('a', 7), ('b', 8), ('t', 9), ('\t', 9), ('n', 10), ('v', 11), ('f', 12), ('r', 13),
   ('e', 27), (' ', 32), (Text.doubleQuote, 34), ('\\', 92), ('/', 47), ('N', 0x85), ('_', 0xA0),
   ('L', 0x2028), ('P', 0x2029)]

/-- The number of hexadecimal digits after a letter that starts a numeric escape. -/
def escapeWidth? (c : Char) : Option Nat :=
  if c = 'x' then some 2 else if c = 'u' then some 4 else if c = 'U' then some 8 else none

/-- The value of a hexadecimal digit. -/
def hexValue? (c : Char) : Option Nat :=
  if c.isDigit then some (c.toNat - '0'.toNat)
  else if 'a' ≤ c && c ≤ 'f' then some (c.toNat - 'a'.toNat + 10)
  else if 'A' ≤ c && c ≤ 'F' then some (c.toNat - 'A'.toNat + 10)
  else none

/-- The number that digits of a base denote; other characters count as zero. -/
def baseValue (base : Nat) (digits : List Char) : Nat :=
  digits.foldl (fun value c => value * base + (hexValue? c).getD 0) 0

/-- The code point of a number. -/
def numberedCode (number : Nat) : Except Fault Nat :=
  if number < 0x110000 then .ok number
  else if number < 0x80000000 then .error .noCharacter
  else .error .farFromCharacter

/-- The code point that an escape stands for, from the letter after the backslash on. -/
def readEscape (cursor : Cursor) : Except Fault (Nat × Cursor) := do
  let some c := cursor.peek | throw cursor.refusal
  match namedEscapes.lookup c, escapeWidth? c with
  | some code, _ => return (code, cursor.next)
  | none, some width =>
    let digits := (cursor.next.rest.take width).takeWhile fun d => (hexValue? d).isSome
    let after := cursor.next.skip digits.length
    if digits.length < width then throw after.refusal
    return (← numberedCode (baseValue 16 digits), after)
  | none, none => throw cursor.refusal

/-- Whether a character is a blank inside a line. -/
def isInlineBlank (c : Char) : Bool :=
  c == ' ' || c == '\t'

/-- The empty lines from the beginning of a line on, and the place after them and the blanks that
follow. -/
def readEmptyLines : Nat → Cursor → Except Fault (List Char × Cursor)
  | 0, cursor => .error cursor.refusal
  | fuel + 1, cursor => do
    if ← cursor.isAtDocument then throw badWord
    let here := cursor.skipWhile isInlineBlank
    match here.lineBreak? with
    | some c =>
      let (breaks, after) ← readEmptyLines fuel here.next
      return (c :: breaks, after)
    | none => return ([], here)

/-- What a line break, with the empty lines after it, counts for inside a word. -/
def foldBreaks (first : Char) (breaks : List Char) : List Char :=
  if first != '\n' then first :: breaks else if breaks.isEmpty then [' '] else breaks

/-- The blanks that stand inside a quoted word, and what they count for. -/
def readQuotedBlanks (fuel : Nat) (cursor : Cursor) : Except Fault (List Char × Cursor) := do
  let blanks := cursor.run isInlineBlank
  let here := cursor.skip blanks.length
  match here.lineBreak? with
  | some first =>
    let (breaks, after) ← readEmptyLines fuel here.next
    return (foldBreaks first breaks, after)
  | none => return (blanks, here)

/-- Reads to the closing quote, given what has been read backwards. -/
def readQuoted (quote : Char) : Nat → List Nat → Cursor → Except Fault (List Nat × Cursor)
  | 0, _, cursor => .error cursor.refusal
  | fuel + 1, read, cursor => do
    let some c := cursor.peek | throw cursor.refusal
    if isInlineBlank c || isBreak c then
      let (blanks, after) ← readQuotedBlanks fuel cursor
      readQuoted quote fuel (blanks.reverse.map Char.toNat ++ read) after
    else if c = quote then
      if quote = Text.apostrophe && cursor.peekAt 1 == some quote then
        readQuoted quote fuel (quote.toNat :: read) (cursor.skip 2)
      else return (read.reverse, cursor.next)
    else if c = '\\' && quote = Text.doubleQuote then
      match cursor.next.lineBreak? with
      | some _ =>
        let (breaks, after) ← readEmptyLines fuel cursor.next.next
        readQuoted quote fuel (breaks.reverse.map Char.toNat ++ read) after
      | none =>
        let (escaped, after) ← readEscape cursor.next
        readQuoted quote fuel (escaped :: read) after
    else readQuoted quote fuel (c.toNat :: read) cursor.next

/-- The word between quotes of the kind that stands here, as code points. -/
def quotedWord (quote : Char) (cursor : Cursor) : Except Fault (List Nat × Cursor) :=
  readQuoted quote (cursor.rest.length + 1) [] cursor.next

end FeatureResolution.Yaml
