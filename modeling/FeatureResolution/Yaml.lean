import FeatureResolution.Yaml.Content

/-!
# YAML files

`Yaml.read` gives the document that a text stands for: the text is cut into tokens, the tokens are
put together to nodes, and the nodes are given their meaning. A text without a document is a null.
The first of these steps that fails says at which stage the text turned out to be no document; some
of the characters cannot stand in a text at all. A text is read in blocks, and a character that
cannot stand in it counts only when its block is reached.
-/

namespace FeatureResolution.Yaml

/-- One line break for each of the ways to write one. -/
def normalizeBreaks : List Char → List Char
  | '\r' :: '\n' :: rest => '\n' :: normalizeBreaks rest
  | '\r' :: rest => '\n' :: normalizeBreaks rest
  | c :: rest => c :: normalizeBreaks rest
  | [] => []

/-- Whether a character may stand in a file. -/
def isAllowed (c : Char) : Bool :=
  let code := c.toNat
  code == 0x09 || code == 0x0A || code == 0x0D || (0x20 ≤ code && code ≤ 0x7E) || code == 0x85 ||
    (0xA0 ≤ code && code ≤ 0xFFFD) || 0x10000 ≤ code

/-- The number of characters in a block. -/
def blockSize : Nat := 4096

/-- The characters before the block with the first one that may not stand in a file, and whether
there is such a block. The first two blocks are read together. -/
def readable (chars : List Char) : List Char × Bool :=
  match chars.findIdx? (!isAllowed ·) with
  | none => (chars, false)
  | some index =>
    if index < 2 * blockSize then ([], true) else (chars.take (index - index % blockSize), true)

/-- The document that a text stands for. -/
def read (text : String) : Except Fault Document := do
  let (chars, isCut) := readable (normalizeBreaks text.toList)
  match ← Graph.ofTokens (Token.ofText chars isCut) with
  | none => return .null
  | some (graph, root) => graph.content root

end FeatureResolution.Yaml
