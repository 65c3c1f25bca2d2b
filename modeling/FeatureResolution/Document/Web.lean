import FeatureResolution.Document

/-!
# Documents in webs

`Document.ofWeb` takes a document out of a web of cells. Where nothing inside it leads back to what
is around it, it becomes plain; otherwise it stays a knot. Plain documents are built from the inside
out: in each round every cell whose parts are known becomes known.
-/

namespace FeatureResolution

/-- The document of a cell, given those of the places known so far; none while a part is unknown. -/
def Cell.document? (known : Nat → Option Document) : Cell → Option Document
  | .scalar value => some (.scalar value)
  | .list items => (items.mapM known).map .list
  | .map fields =>
    (fields.mapM fun field => (known field.2).map fun value => (field.1, value)).map .map
  | .set members => some (.set members)
  | .pair first second => do return .pair (← known first) (← known second)

/-- The places that a cell refers to. -/
def Cell.parts : Cell → List Nat
  | .scalar _ | .set _ => []
  | .list items => items
  | .map fields => fields.map (·.2)
  | .pair first second => [first, second]

namespace Web

/-- What is known of the places of a web. -/
abbrev Known := Array (Option Document)

/-- Looks at one place again; says whether something came to be known. -/
def learn (web : Web) (state : Known × Bool) (place : Nat) : Known × Bool :=
  let (known, changed) := state
  match known[place]?, web[place]? with
  | some none, some cell =>
    match cell.document? fun part => (known[part]?).join with
    | some document => (known.setIfInBounds place (some document), true)
    | none => (known, changed)
  | _, _ => (known, changed)

/-- Looks at all places, the last one first, until nothing more comes to be known. -/
def settle (web : Web) : Nat → Known → Known
  | 0, known => known
  | fuel + 1, known =>
    match (List.range web.size).reverse.foldl web.learn (known, false) with
    | (known, true) => settle web fuel known
    | (known, false) => known

/-- The places that can be reached from some. -/
def reach (web : Web) : Nat → List Nat → List Nat → List Nat
  | 0, seen, _ => seen
  | _, seen, [] => seen
  | fuel + 1, seen, place :: rest =>
    if seen.contains place then reach web fuel seen rest
    else reach web fuel (place :: seen) ((web[place]?.map Cell.parts).getD [] ++ rest)

/-- The number of references between the places of a web. -/
def references (web : Web) : Nat :=
  web.foldl (fun total cell => total + cell.parts.length) 0

/-- The cells that can be reached from a place. -/
def cellsFrom (web : Web) (place : Nat) : List Cell :=
  (web.reach (web.references + web.size + 1) [] [place]).filterMap (web[·]?)

/-- The plain document at a place of a web, if nothing inside it leads back. -/
def plain? (web : Web) (place : Nat) : Option Document :=
  ((web.settle (web.size + 1) (.replicate web.size none))[place]?).join

end Web

namespace Document

/-- The document at a place of a web. -/
def ofWeb (web : Web) (place : Nat) : Document :=
  (web.plain? place).getD (.knot web place)

mutual
/-- Whether a document holds one that contains itself. -/
def isEndless : Document → Bool
  | .scalar _ | .set _ => false
  | .list items => anyEndless items
  | .map fields => anyFieldEndless fields
  | .pair first second => isEndless first || isEndless second
  | .knot web place => (web.plain? place).isNone

/-- Whether one of the documents in a list holds one that contains itself. -/
def anyEndless : List Document → Bool
  | [] => false
  | item :: rest => isEndless item || anyEndless rest

/-- Whether one of the fields of a map holds a document that contains itself. -/
def anyFieldEndless : List (Scalar × Document) → Bool
  | [] => false
  | (_, value) :: rest => isEndless value || anyFieldEndless rest
end

end Document

end FeatureResolution
