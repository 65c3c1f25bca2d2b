import FeatureResolution.Error

/-!
# Layered documents

`Document.overlay` lays one document over another: where both hold maps their fields are merged
one by one, and everywhere else the upper layer's value stands. Fields of the lower layer keep
their place and new fields follow in the upper layer's order.

`Document.merge` is the operation on whole files, whose values need not be maps: only a map can be
laid over something, and only over a map. Where both layers contain themselves they may hold maps
all along an endless path, and then there is no end to laying one over the other. Both operations
look only at places that stand in both layers, so what is shared inside a layer stays shared.
-/

namespace FeatureResolution.Document

/-! ## Laying one document over another -/

/-- More levels than the maps of a file can have. -/
def levelLimit : Nat := 1000

/-- A knot over another document, down to a number of levels. -/
def overlayKnot : Nat → (upper lower : Document) → Document
  | 0, upper, _ => upper
  | levels + 1, upper, lower =>
    match upper.opened, lower.opened with
    | .map fields, .map below =>
      .map (fields.foldl
        (fun below (key, value) =>
          match lookup key below with
          | some old => assign key (overlayKnot levels value old) below
          | none => assign key value below)
        below)
    | _, _ => upper

mutual
/-- The value of a field over the value below it. -/
def overlay : (upper lower : Document) → Document
  | .map upper, lower =>
    match lower.opened with
    | .map lower => .map (overlayFields upper lower)
    | _ => .map upper
  | .knot web place, lower =>
    overlayKnot levelLimit (.knot web place) lower
  | upper, _ => upper

/-- The fields of the upper layer put, one after the other, over those of the lower. -/
def overlayFields :
    (upper lower : List (Scalar × Document)) → List (Scalar × Document)
  | [], lower => lower
  | (key, value) :: rest, lower =>
    match lookup key lower with
    | some old => overlayFields rest (assign key (overlay value old) lower)
    | none => overlayFields rest (assign key value lower)
end

/-- Whether a document is a knot. -/
def isKnot : Document → Bool
  | .knot .. => true
  | _ => false

/-- Whether both documents hold maps along a path that comes to two knots after so many steps. -/
def shareMaps : Nat → (upper lower : Document) → Bool
  | levels, upper, lower =>
    match upper.opened, lower.opened with
    | .map fields, .map below =>
      match levels with
      | 0 => upper.isKnot && lower.isKnot
      | levels + 1 => fields.any fun (key, value) =>
        match lookup key below with
        | some old => shareMaps levels value old
        | none => false
    | _, _ => false

/-- Whether laying one document over the other has no end: what is a knot deeper down than a file
can reach is one all the way. -/
def hasNoEnd (upper lower : Document) : Bool :=
  shareMaps levelLimit upper lower

/-- Lays a whole document over another. A list below can only take a layer without fields. -/
def merge (lower upper : Document) : Except Error Document :=
  match lower.opened, upper.opened with
  | .map _, .map _ =>
    if hasNoEnd upper lower then .error (.fault .tooDeep) else .ok (overlay upper lower)
  | .list _, .map [] => .ok lower
  | .list _, .map _ => .error .wrongShape
  | _, _ => .error (.fault .missingOperation)

end FeatureResolution.Document
