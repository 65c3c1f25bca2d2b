import FeatureResolution.Document.Members
import FeatureResolution.Document.Web
import FeatureResolution.Yaml.Node
import FeatureResolution.Yaml.Value

/-!
# What nodes stand for

`Graph.content` is the document that a node stands for. Words get their values at once. A collection
first gets an empty cell, and is filled when the turn of its level comes; so a node that stands in
several places has one cell, and a collection may come to stand inside itself. Of several faults the
first that is met in this order is reported.

The key of an entry has to be a simple value; when two keys denote the same, the first one stays
with the value of the last one. What stands behind the key `<<`, a mapping or a sequence of them,
precedes the other entries of its mapping, so that these win. A mapping can stand for a word: for
the one behind its first key `=`. In a mapping that is filled this key becomes a text for good.
-/

namespace FeatureResolution.Yaml

/-- The state while nodes get their values: the nodes, the cells that some of them have by now, with
further cells of pairs behind these, and the collections still to be filled, backwards. -/
structure Reading where
  nodes : Graph
  cells : Array (Option Cell)
  waiting : List Nat := []

/-- Work on the values of nodes. -/
abbrev Valuing : Type → Type :=
  StateT Reading (Except Fault)

namespace Valuing

/-- The node at a place. -/
def nodeAt (place : Nat) : Valuing Node := do
  return (← get).nodes[place]?.getD .empty

/-- Changes the node at a place. -/
def setNode (place : Nat) (node : Node) : Valuing Unit :=
  modify fun state => { state with nodes := state.nodes.setIfInBounds place node }

/-- Gives a place its cell. -/
def setCell (place : Nat) (cell : Cell) : Valuing Unit :=
  modify fun state => { state with cells := state.cells.setIfInBounds place (some cell) }

/-- Puts a cell at a new place. -/
def addCell (cell : Cell) : Valuing Nat := do
  let place := (← get).cells.size
  modify fun state => { state with cells := state.cells.push (some cell) }
  return place

/-! ## Words -/

/-- The word that a node spells. -/
def wordAt : Nat → Nat → Valuing (List Nat)
  | 0, _ => throw .tooDeep
  | fuel + 1, place => do
    match (← nodeAt place).shape with
    | .word text => return text
    | .sequence _ => throw badValue
    | .mapping entries _ =>
      let nodes := (← get).nodes
      match entries.find? fun (key, _) => nodes[key]?.any (·.tag == .default) with
      | some (_, value) => wordAt fuel value
      | none => throw badValue

/-- The simple value of a node; only a node that is a word itself can be a timestamp. -/
def simpleAt (place : Nat) : Valuing Scalar := do
  let node ← nodeAt place
  if !node.tag.isSimple then throw badValue
  let word ← wordAt ((← get).nodes.size + 1) place
  if node.tag = .timestamp && !node.shape.isWord then throw .wrongShape
  wordValue node.tag place word

/-! ## Cells -/

/-- Begins a collection: its cell is empty until it is filled. -/
def begin (place : Nat) (cell : Cell) : Valuing Cell := do
  setCell place cell
  modify fun state => { state with waiting := place :: state.waiting }
  return cell

/-- The cell of a node, which it gets now if it has none. -/
def cellAt (place : Nat) : Valuing Cell := do
  match (← get).cells[place]? with
  | some (some cell) => return cell
  | _ =>
    match (← nodeAt place).tag with
    | .list | .pairs => begin place (.list [])
    | .map => begin place (.map [])
    | .set => begin place (.set [])
    | _ =>
      let cell := Cell.scalar (← simpleAt place)
      setCell place cell
      return cell

/-- The value of a key, which has to be a simple one. -/
def keyAt (place : Nat) : Valuing Scalar := do
  match ← cellAt place with
  | .scalar value => return value
  | _ => throw badValue

/-! ## Merging -/

/-- The entries of a mapping. -/
def entriesAt (place : Nat) : Valuing (List (Nat × Nat)) := do
  match (← nodeAt place).shape with
  | .mapping entries _ => return entries
  | _ => throw badValue

/-- What a mapping is still to be merged with first, if there is something; it will not be found
again. -/
def takeMerged? (place : Nat) : Valuing (Option Nat) := do
  let node ← nodeAt place
  match node.shape with
  | .mapping entries (first :: rest) =>
    setNode place { node with shape := .mapping entries rest }
    return some first
  | _ => return none

/-- The mappings that stand behind a `<<`. -/
def sourcesAt (place : Nat) : Valuing (List Nat) := do
  match (← nodeAt place).shape with
  | .mapping .. => return [place]
  | .sequence items => return items
  | .word _ => throw badValue

/-- Makes a text of a key `=`. -/
def nameKey (place : Nat) : Valuing Unit := do
  let node ← nodeAt place
  if node.tag = .default then setNode place { node with tag := .text }

/-- Puts the entries of all that a mapping is to be merged with before its own, the given ones among
them. -/
def absorb : Nat → Nat → List (Nat × Nat) → Valuing Unit
  | 0, _, _ => throw .tooDeep
  | fuel + 1, place, merged => do
    match ← takeMerged? place with
    | some value =>
      let sources ← (← sourcesAt value).mapM fun source => do
        absorb fuel source []
        entriesAt source
      absorb fuel place (merged ++ sources.reverse.flatten)
    | none =>
      let entries := merged ++ (← entriesAt place)
      entries.forM fun (key, _) => nameKey key
      let node ← nodeAt place
      setNode place { node with shape := .mapping entries [] }

/-- The number of things that mappings are still to be merged with. -/
def mergeCount (nodes : Graph) : Nat :=
  nodes.foldl
    (fun count node =>
      match node.shape with
      | .mapping _ merged => count + merged.length
      | _ => count)
    0

/-! ## Filling collections -/

/-- The fields of a mapping, each with the place of its value. -/
def fieldsAt (place : Nat) : Valuing (List (Scalar × Nat)) := do
  absorb (mergeCount (← get).nodes + 1) place []
  (← entriesAt place).foldlM
    (fun fields (key, value) => do
      let name ← keyAt key
      let _ ← cellAt value
      return Document.assign name value fields) []

/-- The items of a sequence. -/
def itemsAt (place : Nat) : Valuing (List Nat) := do
  match (← nodeAt place).shape with
  | .sequence items => return items
  | _ => throw badValue

/-- The pair of a mapping with a single entry. -/
def pairAt (place : Nat) : Valuing Nat := do
  match (← nodeAt place).shape with
  | .mapping [(key, value)] [] =>
    let _ ← cellAt key
    let _ ← cellAt value
    addCell (.pair key value)
  | _ => throw badValue

/-- Fills a collection. -/
def fill (place : Nat) : Valuing Unit := do
  match (← nodeAt place).tag with
  | .map => setCell place (.map (← fieldsAt place))
  | .set => setCell place (.set (Members.ordered ((← fieldsAt place).map (·.1))))
  | .pairs => setCell place (.list (← (← itemsAt place).mapM pairAt))
  | _ =>
    let items ← itemsAt place
    items.forM fun item => do let _ ← cellAt item
    setCell place (.list items)

/-- Fills the collections that wait, level by level. -/
def fillAll : Nat → Valuing Unit
  | 0 => return ()
  | fuel + 1 => do
    match (← get).waiting with
    | [] => return ()
    | waiting =>
      modify fun state => { state with waiting := [] }
      waiting.reverse.forM fill
      fillAll fuel

end Valuing

/-- The document that a node stands for. -/
def Graph.content (graph : Graph) (place : Nat) : Except Fault Document := do
  let work : Valuing Unit := do
    let _ ← Valuing.cellAt place
    Valuing.fillAll (graph.size + 1)
  let (_, state) ← work.run { nodes := graph, cells := .replicate graph.size none }
  return .ofWeb (state.cells.map (·.getD (.scalar .null))) place

end FeatureResolution.Yaml
