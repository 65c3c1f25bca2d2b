import FeatureResolution.Yaml.BlockText
import FeatureResolution.Yaml.Plain
import FeatureResolution.Yaml.Property

/-!
# Tokens of a YAML text

`Token.ofText` cuts a text into tokens. Indentation becomes tokens too: where a collection begins
further in than what is around it there is a token for its beginning, and where a line stands
further out there is one for each end. A word turns out to be the key of a map only at the colon
behind it, which has to follow in the same line and within 1024 characters; then a token is put
before the word.

When a word cannot be read, the tokens end with the fault, after the last token of which it is
certain by then that it is no key. It is the same where a text is cut: no token reaches its end.
-/

namespace FeatureResolution.Yaml

/-- A token; the text of a word is given by code points. `finish` ends the tokens of a whole text,
`fault` those of a text with a bad word. -/
inductive Token where
  | directive (directive : Directive)
  | documentStart
  | documentEnd
  | blockSequenceStart
  | blockMappingStart
  | blockEnd
  | flowSequenceStart
  | flowSequenceEnd
  | flowMappingStart
  | flowMappingEnd
  | blockEntry
  | flowEntry
  | key
  | value
  | alias (name : String)
  | anchor (name : String)
  | tag (handle : Option String) (suffix : String)
  | scalar (text : List Nat) (isPlain : Bool)
  | finish
  | fault (fault : Fault)
deriving DecidableEq, Repr

/-- A word that may turn out to be a key: the number of tokens before it, where it stands, and
whether nothing else can stand there. -/
structure PendingKey where
  tokens : Nat
  isRequired : Bool
  place : Cursor
deriving DecidableEq, Repr

/-- The state between two tokens. `tokens` are those read so far, backwards; `depth` counts the
brackets and braces around, `indents` are the columns of the block collections around, and `keys`
are the words that may turn out to be keys, by the depth they stand at. -/
structure Tokenizer where
  cursor : Cursor
  tokens : List Token := []
  depth : Int := 0
  indent : Int := -1
  indents : List Int := []
  allowsKey : Bool := true
  keys : List (Int × PendingKey) := []
deriving DecidableEq, Repr

namespace Tokenizer

/-! ## Keys -/

/-- Whether brackets or braces are open. -/
def inFlow (state : Tokenizer) : Bool :=
  state.depth != 0

/-- Adds a token. -/
def push (state : Tokenizer) (token : Token) : Tokenizer :=
  { state with tokens := token :: state.tokens }

/-- Puts a token before the token of a given number. -/
def insertAt (state : Tokenizer) (number : Nat) (token : Token) : Tokenizer :=
  let later := state.tokens.length - number
  { state with tokens := state.tokens.take later ++ token :: state.tokens.drop later }

/-- Whether it is too late for a colon behind a word. -/
def isStale (state : Tokenizer) (pending : PendingKey) : Bool :=
  pending.place.line != state.cursor.line || 1024 < state.cursor.index - pending.place.index

/-- Forgets the words that cannot be keys any more; none of them may be a required one. -/
def dropStale (state : Tokenizer) : Except Fault Tokenizer :=
  if state.keys.any fun (_, pending) => state.isStale pending && pending.isRequired then
    .error badWord
  else .ok { state with keys := state.keys.filter fun (_, pending) => !state.isStale pending }

/-- The word that may turn out to be a key here. -/
def pendingKey? (state : Tokenizer) : Option PendingKey :=
  state.keys.lookup state.depth

/-- Forgets the word that might have been a key here. -/
def forgetKey (state : Tokenizer) : Tokenizer :=
  { state with keys := state.keys.filter fun (depth, _) => depth != state.depth }

/-- Gives up the word that might have been a key here, which cannot be a required one. -/
def dropKey (state : Tokenizer) : Except Fault Tokenizer :=
  if state.pendingKey?.any (·.isRequired) then .error badWord else .ok state.forgetKey

/-- Notes that the word that follows may turn out to be a key. -/
def noteKey (state : Tokenizer) : Except Fault Tokenizer :=
  if state.allowsKey then do
    let pending : PendingKey :=
      { tokens := state.tokens.length
        isRequired := !state.inFlow && state.indent == state.cursor.column
        place := state.cursor }
    let state ← state.dropKey
    return { state with keys := (state.depth, pending) :: state.keys }
  else .ok state

/-! ## Indentation -/

/-- Ends the block collections that stand further in than a column. -/
def closeTo (column : Int) : List Int → Tokenizer → Tokenizer
  | [], state => state
  | outer :: indents, state =>
    if column < state.indent then
      closeTo column indents { state.push .blockEnd with indent := outer, indents }
    else state

/-- Ends the block collections that stand further in than a column, outside brackets and braces. -/
def unwind (state : Tokenizer) (column : Int) : Tokenizer :=
  if state.inFlow then state else closeTo column state.indents state

/-- Begins a block collection at a column that is further in; says whether it did. -/
def indentTo (state : Tokenizer) (column : Int) : Bool × Tokenizer :=
  if state.indent < column then
    (true, { state with indent := column, indents := state.indent :: state.indents })
  else (false, state)

/-- Begins a block collection here, outside brackets and braces, where it is further in. -/
def openBlock (state : Tokenizer) (token : Token) : Except Fault Tokenizer :=
  if state.inFlow then .ok state
  else if !state.allowsKey then .error badWord
  else
    match state.indentTo state.cursor.column with
    | (true, state) => .ok (state.push token)
    | (false, state) => .ok state

/-! ## Single tokens -/

/-- Takes a mark of one character. -/
def mark (state : Tokenizer) (token : Token) : Tokenizer :=
  { state.push token with cursor := state.cursor.next }

/-- Takes a marker between documents. -/
def documentMarker (state : Tokenizer) (token : Token) : Except Fault Tokenizer := do
  let state ← (state.unwind (-1)).dropKey
  return { state.push token with cursor := state.cursor.skip 3, allowsKey := false }

/-- Takes a directive. -/
def directiveLine (state : Tokenizer) : Except Fault Tokenizer := do
  let state ← (state.unwind (-1)).dropKey
  let (directive, cursor) ← readDirective state.cursor
  return { state.push (.directive directive) with cursor, allowsKey := false }

/-- Takes an opening bracket or brace. -/
def openFlow (state : Tokenizer) (token : Token) : Except Fault Tokenizer := do
  let state ← state.noteKey
  return { state.mark token with depth := state.depth + 1, allowsKey := true }

/-- Takes a closing bracket or brace. -/
def closeFlow (state : Tokenizer) (token : Token) : Except Fault Tokenizer := do
  let state ← state.dropKey
  return { state.mark token with depth := state.depth - 1, allowsKey := false }

/-- Takes a comma between items. -/
def flowEntry (state : Tokenizer) : Except Fault Tokenizer := do
  let state ← state.dropKey
  return { state.mark .flowEntry with allowsKey := true }

/-- Takes the dash of an item. -/
def blockEntry (state : Tokenizer) : Except Fault Tokenizer := do
  let state ← (← state.openBlock .blockSequenceStart).dropKey
  return { state.mark .blockEntry with allowsKey := true }

/-- Takes the question mark of a key. -/
def explicitKey (state : Tokenizer) : Except Fault Tokenizer := do
  let state ← (← state.openBlock .blockMappingStart).dropKey
  return { state.mark .key with allowsKey := !state.inFlow }

/-- Takes the colon of a value; it makes the word noted last a key. -/
def value (state : Tokenizer) : Except Fault Tokenizer := do
  match state.pendingKey? with
  | some pending =>
    let state := state.forgetKey.insertAt pending.tokens .key
    let state :=
      if state.inFlow then state
      else
        match state.indentTo pending.place.column with
        | (true, state) => state.insertAt pending.tokens .blockMappingStart
        | (false, state) => state
    return { state.mark .value with allowsKey := false }
  | none =>
    let state ← (← state.openBlock .blockMappingStart).dropKey
    return { state.mark .value with allowsKey := !state.inFlow }

/-- Takes a word that may be a key and leaves none allowed behind it. -/
def word (state : Tokenizer) (read : Cursor → Except Fault (Token × Cursor)) :
    Except Fault Tokenizer := do
  let state ← state.noteKey
  let (token, cursor) ← read state.cursor
  return { state.push token with cursor, allowsKey := false }

/-- Takes a plain word. -/
def plain (state : Tokenizer) : Except Fault Tokenizer := do
  let state ← state.noteKey
  let (text, cursor, broken) ← plainWord state.inFlow (state.indent + 1) state.cursor
  return { state.push (.scalar (Text.codes text) true) with cursor, allowsKey := broken }

/-- Takes a block text. -/
def block (state : Tokenizer) (folded : Bool) : Except Fault Tokenizer := do
  let state ← state.dropKey
  let (text, cursor) ← blockText folded state.indent state.cursor
  return { state.push (.scalar (Text.codes text) false) with cursor, allowsKey := true }

/-! ## The next token -/

/-- The place of the next token, after blanks, comments and line ends. Outside brackets and braces a
word at the beginning of a line may be a key. -/
def toNext (inFlow : Bool) : Nat → Bool → Cursor → Bool × Cursor
  | 0, allowsKey, cursor => (allowsKey, cursor)
  | fuel + 1, allowsKey, cursor =>
    let here := cursor.skipSpaces.skipComment
    match here.lineBreak? with
    | some _ => toNext inFlow fuel (allowsKey || !inFlow) here.next
    | none => (allowsKey, here)

/-- Whether a plain word can begin with a character, given the character after it. -/
def beginsPlain (inFlow : Bool) (c : Char) (following : Option Char) : Bool :=
  let indicators :=
    ['-', '?', ':', ',', '[', ']', '\x7b', '\x7d', '#', '&', '*', '!', '|', '>', Text.apostrophe,
      Text.doubleQuote, '%', '@', '\x60']
  (!endsWord (some c) && !indicators.contains c) ||
    (!endsWord following && (c == '-' || (!inFlow && (c == '?' || c == ':'))))

/-- Takes the token that begins with a given character. -/
def take (state : Tokenizer) (c : Char) : Except Fault Tokenizer := do
  let here := state.cursor
  let flow := state.inFlow
  let isMarker ←
    if here.column == 0 && (c == '-' || c == '.') then here.isAtMarker [c] else pure false
  if isMarker then
    return ← state.documentMarker (if c == '-' then .documentStart else .documentEnd)
  if c == '-' || (!flow && (c == '?' || c == ':')) then here.need 2
  let following := here.peekAt 1
  if c = '%' && here.column == 0 then state.directiveLine
  else if c = '[' then state.openFlow .flowSequenceStart
  else if c = '\x7b' then state.openFlow .flowMappingStart
  else if c = ']' then state.closeFlow .flowSequenceEnd
  else if c = '\x7d' then state.closeFlow .flowMappingEnd
  else if c = ',' then state.flowEntry
  else if c = '-' && endsWord following then state.blockEntry
  else if c = '?' && (flow || endsWord following) then state.explicitKey
  else if c = ':' && (flow || endsWord following) then state.value
  else if c = '*' then state.word fun cursor => do
    let (name, after) ← anchorName cursor
    return (.alias name, after)
  else if c = '&' then state.word fun cursor => do
    let (name, after) ← anchorName cursor
    return (.anchor name, after)
  else if c = '!' then state.word fun cursor => do
    let (handle, suffix, after) ← readTag cursor
    return (.tag handle suffix, after)
  else if c = '|' && !flow then state.block false
  else if c = '>' && !flow then state.block true
  else if c = Text.apostrophe || c = Text.doubleQuote then state.word fun cursor => do
    let (text, after) ← quotedWord c cursor
    return (.scalar text false, after)
  else if beginsPlain flow c following then state.plain
  else .error here.next.refusal

/-- Ends the tokens of a text. -/
def close (state : Tokenizer) : Except Fault Tokenizer := do
  let state ← (state.unwind (-1)).dropKey
  return { state.push .finish with keys := [] }

/-- Takes the next token, with the ends of collections before it; says whether it was the last.
No word that has to be a key may be left behind without a colon. -/
def step (state : Tokenizer) : Except Fault (Bool × Tokenizer) := do
  let fuel := state.cursor.rest.length + 1
  let (allowsKey, cursor) := toNext state.inFlow fuel state.allowsKey state.cursor
  if cursor.isBroken then throw badCharacter
  let state ← { state with allowsKey, cursor }.dropStale
  let state := state.unwind state.cursor.column
  match state.cursor.peek with
  | none => return (true, ← state.close)
  | some c =>
    let state ← state.take c
    if state.cursor.isBroken then throw badCharacter
    return (false, ← state.dropStale)

/-- The tokens up to a fault: those before the first word that might still be a key. -/
def cut (state : Tokenizer) (fault : Fault) : List Token :=
  let certain := state.keys.foldl (fun least (_, pending) => min least pending.tokens)
    state.tokens.length
  state.tokens.reverse.take certain ++ [.fault fault]

/-- All tokens from a state on. -/
def run : Nat → Tokenizer → List Token
  | 0, state => state.cut badWord
  | fuel + 1, state =>
    match state.step with
    | .ok (true, state) => state.tokens.reverse
    | .ok (false, state) => run fuel state
    | .error fault => state.cut fault

end Tokenizer

/-- The tokens of a text, which may begin with a byte order mark and may be cut. -/
def Token.ofText (chars : List Char) (isCut : Bool) : List Token :=
  let start : Cursor := { rest := chars, isCut }
  let start := if start.isAt byteOrderMark then start.next else start
  Tokenizer.run (chars.length + 2) { cursor := start }

end FeatureResolution.Yaml
