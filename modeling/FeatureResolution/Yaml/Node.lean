import FeatureResolution.Yaml.Tag
import FeatureResolution.Yaml.Token

/-!
# Nodes

A node is a word, a sequence or a mapping, with the tag that says what it is. Nodes stand at places
in a `Graph` and refer to each other by these. `Graph.ofTokens` puts the tokens of a text together
to the graph of its only document.

An empty place where a node may stand is a null. Below a key the items of a sequence need not stand
further in than the key; inside brackets a key and its value stand for a mapping with this one
entry. An anchor names the node behind it, and an alias stands for the node that its name was given
to, which may be one that the alias itself stands in.
-/

namespace FeatureResolution.Yaml

/-- What stands in a node: a word as code points, or the places of other nodes. What a mapping has
behind the key `<<` is no entry of its own but is to be merged into it. -/
inductive Shape where
  | word (text : List Nat)
  | sequence (items : List Nat)
  | mapping (entries : List (Nat × Nat)) (merged : List Nat)
deriving DecidableEq, Repr, Inhabited

/-- Whether a shape is a word. -/
def Shape.isWord : Shape → Bool
  | .word _ => true
  | _ => false

/-- A word, a sequence or a mapping with its tag. -/
structure Node where
  tag : Tag
  shape : Shape
deriving DecidableEq, Repr

/-- Nodes that refer to each other by their places. -/
abbrev Graph := Array Node

/-- The node of an empty place. -/
def Node.empty : Node :=
  ⟨.null, .word []⟩

instance : Inhabited Node :=
  ⟨.empty⟩

/-- The state while tokens are put together: the tokens left, the meanings of the handles of tags,
the places of the nodes that names were given to, the nodes so far, and the number of collections
around. -/
structure Composition where
  tokens : List Token
  handles : List (String × String) := []
  anchors : List (String × Nat) := []
  nodes : Graph := #[]
  level : Nat := 0

/-- Work that takes tokens. -/
abbrev Composing : Type → Type :=
  StateT Composition (Except Fault)

/-- The fault of tokens that cannot follow each other. -/
def badOrder : Fault :=
  .unparsable .order

/-- The fault of a name that refers to nothing, or of what follows the only document. -/
def badReference : Fault :=
  .unparsable .reference

namespace Composing

/-! ## Tokens -/

/-- The next token; where the tokens end with a fault, reaching it is that fault. -/
def peek : Composing Token := do
  match (← get).tokens with
  | .fault fault :: _ => throw fault
  | token :: _ => return token
  | [] => throw badOrder

/-- Leaves the next token behind. -/
def skip : Composing Unit :=
  modify fun state => { state with tokens := state.tokens.tail }

/-- Takes a token if it comes next; says whether it did. -/
def accept (token : Token) : Composing Bool := do
  if (← peek) = token then
    skip
    return true
  else return false

/-- Takes a token that has to come next. -/
def expect (token : Token) : Composing Unit := do
  if !(← accept token) then throw badOrder

/-- Whether the next token is one of some. -/
def isAt (tokens : List Token) : Composing Bool := do
  return tokens.contains (← peek)

/-! ## Anchors and tags -/

/-- The handles that always have a meaning. -/
def commonHandles : List (String × String) :=
  [("!", "!"), ("!!", commonTag "")]

/-- The name of a tag, its handle replaced by what it means. -/
def tagName : Option String → String → Composing String
  | none, suffix => return suffix
  | some handle, suffix => do
    match (← get).handles.lookup handle with
    | some meaning => return meaning ++ suffix
    | none => throw badOrder

/-- The anchor that comes next, if one does. -/
def anchor? : Composing (Option String) := do
  match ← peek with
  | .anchor name =>
    skip
    return some name
  | _ => return none

/-- The tag that comes next, if one does: its handle and its suffix. -/
def tag? : Composing (Option (Option String × String)) := do
  match ← peek with
  | .tag handle suffix =>
    skip
    return some (handle, suffix)
  | _ => return none

/-- The anchor and the tag of a node, which stand before it in any order. -/
def properties : Composing (Option String × Option String) := do
  let before ← anchor?
  let tag ← tag?
  let anchor ← if before.isNone && tag.isSome then anchor? else pure before
  match tag with
  | none => return (anchor, none)
  | some (handle, suffix) => return (anchor, some (← tagName handle suffix))

/-- The tag of a node of which the given name is written down, if any: the mark alone and no name at
all leave the tag to the node itself. -/
def tagOr (own : Tag) : Option String → Tag
  | none => own
  | some name => if name = "!" then own else .ofName name

/-- The tag of a word. Between quotes, without a tag, it is a text. -/
def wordTag (isPlain : Bool) (word : List Nat) (tag : Option String) : Tag :=
  if tag.isNone && !isPlain then .text else tagOr (.ofWord (word.map Text.charOf)) tag

/-! ## Places -/

/-- Puts a node at a new place. -/
def addNode (node : Node) : Composing Nat := do
  let place := (← get).nodes.size
  modify fun state => { state with nodes := state.nodes.push node }
  return place

/-- Puts a node with an anchor, which must be a new name, at a new place. -/
def addNamed (anchor : Option String) (node : Node) : Composing Nat := do
  if let some name := anchor then
    if ((← get).anchors.lookup name).isSome then throw badReference
  let place ← addNode node
  if let some name := anchor then
    modify fun state => { state with anchors := (name, place) :: state.anchors }
  return place

/-- How many collections can stand inside each other. -/
def levelLimit : Nat := 488

/-- Puts a collection with an anchor at a new place and then the nodes inside it. -/
def addCollection (anchor : Option String) (tag : Tag) (shape : Composing Shape) :
    Composing Nat := do
  let level := (← get).level
  if levelLimit ≤ level then throw .tooDeep
  let place ← addNamed anchor ⟨tag, .sequence []⟩
  modify fun state => { state with level := level + 1 }
  let shape ← shape
  modify fun state =>
    { state with level, nodes := state.nodes.setIfInBounds place ⟨tag, shape⟩ }
  return place

/-- The mapping with the given keys and values. -/
def mapping (entries : List (Nat × Nat)) : Composing Shape := do
  let nodes := (← get).nodes
  let isMerge (entry : Nat × Nat) : Bool := nodes[entry.1]?.any (·.tag == .merge)
  return .mapping (entries.filter (!isMerge ·)) ((entries.filter isMerge).map (·.2))

/-- The place of the node that a name was given to. -/
def reference (name : String) : Composing Nat := do
  match (← get).anchors.lookup name with
  | some place => return place
  | none => throw badReference

/-! ## Nodes -/

mutual
/-- The node that stands here. A block collection can stand only outside brackets and braces, and a
sequence that is not indented only below a key. -/
def node (inBlock belowKey : Bool) : Nat → Composing Nat
  | 0 => throw badOrder
  | fuel + 1 => do
    if let .alias name ← peek then
      skip
      return ← reference name
    let (anchor, tag) ← properties
    match ← peek, inBlock, belowKey with
    | .scalar word isPlain, _, _ =>
      skip
      addNamed anchor ⟨wordTag isPlain word tag, .word word⟩
    | .flowSequenceStart, _, _ =>
      skip
      addCollection anchor (tagOr .list tag) (return .sequence (← flowItems true fuel))
    | .flowMappingStart, _, _ =>
      skip
      addCollection anchor (tagOr .map tag) (do mapping (← flowEntries true fuel))
    | .blockSequenceStart, true, _ =>
      skip
      addCollection anchor (tagOr .list tag) (return .sequence (← blockItems fuel))
    | .blockMappingStart, true, _ =>
      skip
      addCollection anchor (tagOr .map tag) (do mapping (← blockEntries fuel))
    | .blockEntry, _, true =>
      addCollection anchor (tagOr .list tag) (return .sequence (← flushItems fuel))
    | _, _, _ =>
      if anchor.isSome || tag.isSome then addNamed anchor ⟨wordTag true [] tag, .word []⟩
      else throw badOrder

/-- The node that stands here, or the empty node before one of some tokens. -/
def nodeOrEmpty (inBlock belowKey : Bool) (ends : List Token) : Nat → Composing Nat
  | 0 => throw badOrder
  | fuel + 1 => do
    if ← isAt ends then addNode .empty else node inBlock belowKey fuel

/-- The value behind a colon, or the empty node. -/
def valueOrEmpty (inBlock : Bool) (ends : List Token) : Nat → Composing Nat
  | 0 => throw badOrder
  | fuel + 1 => do
    if ← accept .value then nodeOrEmpty inBlock inBlock ends fuel else addNode .empty

/-- The items of a block sequence. -/
def blockItems : Nat → Composing (List Nat)
  | 0 => throw badOrder
  | fuel + 1 => do
    if ← accept .blockEntry then
      let item ← nodeOrEmpty true false [.blockEntry, .blockEnd] fuel
      return item :: (← blockItems fuel)
    else
      expect .blockEnd
      return []

/-- The items of a sequence that is not indented. -/
def flushItems : Nat → Composing (List Nat)
  | 0 => throw badOrder
  | fuel + 1 => do
    if ← accept .blockEntry then
      let item ← nodeOrEmpty true false [.blockEntry, .key, .value, .blockEnd] fuel
      return item :: (← flushItems fuel)
    else return []

/-- The entries of a block mapping. -/
def blockEntries : Nat → Composing (List (Nat × Nat))
  | 0 => throw badOrder
  | fuel + 1 => do
    let ends := [Token.key, .value, .blockEnd]
    if ← accept .key then
      let key ← nodeOrEmpty true true ends fuel
      let value ← valueOrEmpty true ends fuel
      return (key, value) :: (← blockEntries fuel)
    else
      expect .blockEnd
      return []

/-- The items of a sequence in brackets. -/
def flowItems (isFirst : Bool) : Nat → Composing (List Nat)
  | 0 => throw badOrder
  | fuel + 1 => do
    if ← accept .flowSequenceEnd then return []
    if !isFirst then expect .flowEntry
    if ← accept .key then
      let entry ← addCollection none .map do
        let key ← nodeOrEmpty false false [.value, .flowEntry, .flowSequenceEnd] fuel
        let value ← valueOrEmpty false [.flowEntry, .flowSequenceEnd] fuel
        mapping [(key, value)]
      return entry :: (← flowItems false fuel)
    else if ← accept .flowSequenceEnd then return []
    else
      let item ← node false false fuel
      return item :: (← flowItems false fuel)

/-- The entries of a mapping in braces. -/
def flowEntries (isFirst : Bool) : Nat → Composing (List (Nat × Nat))
  | 0 => throw badOrder
  | fuel + 1 => do
    if ← accept .flowMappingEnd then return []
    if !isFirst then expect .flowEntry
    if ← accept .key then
      let key ← nodeOrEmpty false false [.value, .flowEntry, .flowMappingEnd] fuel
      let value ← valueOrEmpty false [.flowEntry, .flowMappingEnd] fuel
      return (key, value) :: (← flowEntries false fuel)
    else if ← accept .flowMappingEnd then return []
    else
      let key ← node false false fuel
      return (key, ← addNode .empty) :: (← flowEntries false fuel)
end

/-! ## Documents -/

/-- Takes the directives before a document. There is at most one version, a known one, and at most
one meaning for a handle. -/
def directives (hasVersion : Bool) (handles : List (String × String)) :
    Nat → Composing (List (String × String))
  | 0 => throw badOrder
  | fuel + 1 => do
    match ← peek with
    | .directive directive =>
      skip
      match directive with
      | .version major =>
        if hasVersion || major != 1 then throw badOrder
        directives true handles fuel
      | .handle handle meaning =>
        if (handles.lookup handle).isSome then throw badOrder
        directives hasVersion ((handle, meaning) :: handles) fuel
      | .other => directives hasVersion handles fuel
    | _ => return handles

/-- Takes the beginning of a document that is marked as one. -/
def documentStart (fuel : Nat) : Composing Unit := do
  let handles ← directives false [] fuel
  expect .documentStart
  modify fun state => { state with handles := handles ++ commonHandles }

/-- Takes the markers of ends of documents. -/
def documentEnds : Nat → Composing Unit
  | 0 => return ()
  | fuel + 1 => do
    if ← accept .documentEnd then documentEnds fuel

/-- The place of the node of the only document, none in an empty text. -/
def document (fuel : Nat) : Composing (Option Nat) := do
  let content ←
    match ← peek with
    | .finish => return none
    | .directive _ | .documentStart => do
      documentStart fuel
      match ← peek with
      | .directive _ | .documentStart | .documentEnd | .finish => addNode .empty
      | _ => node true false fuel
    | _ => node true false fuel
  documentEnds fuel
  if ← accept .finish then return some content
  documentStart fuel
  throw badReference

end Composing

/-- The nodes of the tokens of a text and the place of the node of its only document, none in an
empty text. -/
def Graph.ofTokens (tokens : List Token) : Except Fault (Option (Graph × Nat)) := do
  let (place, state) ← (Composing.document (4 * tokens.length + 4)).run
    { tokens, handles := Composing.commonHandles }
  return place.map fun place => (state.nodes, place)

end FeatureResolution.Yaml
