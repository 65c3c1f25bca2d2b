import FeatureResolution.Scalar

/-!
# Documents

A `Document` is the value of a configuration file: a simple value, a list or a map, and in some
files a set or a pair. Maps keep the order in which their fields were written. A field is looked up
by what its name denotes (`Scalar.same`), and giving a field a value keeps the name it was first
written with.

A file can also hold a collection inside itself. Such a document is a knot: a place in a `Web` of
cells that refer to each other by their places. `Document.opened` undoes the outermost level of a
knot, so what takes documents apart level by level need not know of knots.

Settings, manifests and profiles all arrive as documents, and some of them are used unchecked, so
this is also the type of every value whose shape is not known yet.
-/

namespace FeatureResolution

/-- A part of a web: a simple value, or a collection whose parts are given by their places. -/
inductive Cell where
  | scalar (value : Scalar)
  | list (items : List Nat)
  | map (fields : List (Scalar × Nat))
  | set (members : List Scalar)
  | pair (first second : Nat)
deriving DecidableEq, Repr, Inhabited

/-- Cells that refer to each other by their places. -/
abbrev Web := Array Cell

/-- The value of a configuration file. -/
inductive Document where
  | scalar (value : Scalar)
  | list (items : List Document)
  | map (fields : List (Scalar × Document))
  | set (members : List Scalar)
  | pair (first second : Document)
  | knot (web : Web) (place : Nat)
deriving Repr, Inhabited

namespace Document

/-! ## Simple documents -/

/-- The null. -/
@[match_pattern] abbrev null : Document := .scalar .null

/-- A truth value. -/
@[match_pattern] abbrev bool (value : Bool) : Document := .scalar (.bool value)

/-- A whole number. -/
@[match_pattern] abbrev int (value : Int) : Document := .scalar (.int value)

/-- A text. -/
@[match_pattern] abbrev text (value : String) : Document := .scalar (.text value)

/-- Whether a document is a simple value, which is what can name something. -/
def isScalar : Document → Bool
  | .scalar _ => true
  | _ => false

/-! ## Equality -/

mutual
/-- Decides whether two documents are the same as written. -/
def decideEq : (first second : Document) → Decidable (first = second)
  | .scalar a, .scalar b =>
    if same : a = b then isTrue (by rw [same]) else isFalse (by simp [same])
  | .list xs, .list ys =>
    match decideEqItems xs ys with
    | isTrue same => isTrue (by rw [same])
    | isFalse different => isFalse (by simpa using different)
  | .map xs, .map ys =>
    match decideEqFields xs ys with
    | isTrue same => isTrue (by rw [same])
    | isFalse different => isFalse (by simpa using different)
  | .set xs, .set ys =>
    if same : xs = ys then isTrue (by rw [same]) else isFalse (by simp [same])
  | .pair x x', .pair y y' =>
    match decideEq x y, decideEq x' y' with
    | isTrue head, isTrue tail => isTrue (by rw [head, tail])
    | isFalse different, _ => isFalse (by simp [different])
    | _, isFalse different => isFalse (by simp [different])
  | .knot web place, .knot web' place' =>
    if same : web = web' ∧ place = place' then isTrue (by rw [same.1, same.2])
    else isFalse (by simpa using same)
  | .scalar _, .list _ | .scalar _, .map _ | .scalar _, .set _ | .scalar _, .pair .. =>
    isFalse nofun
  | .scalar _, .knot .. | .list _, .knot .. | .map _, .knot .. | .set _, .knot .. => isFalse nofun
  | .list _, .scalar _ | .list _, .map _ | .list _, .set _ | .list _, .pair .. => isFalse nofun
  | .map _, .scalar _ | .map _, .list _ | .map _, .set _ | .map _, .pair .. => isFalse nofun
  | .set _, .scalar _ | .set _, .list _ | .set _, .map _ | .set _, .pair .. => isFalse nofun
  | .pair .., .scalar _ | .pair .., .list _ | .pair .., .map _ | .pair .., .set _ => isFalse nofun
  | .pair .., .knot .. | .knot .., .scalar _ | .knot .., .list _ | .knot .., .map _ => isFalse nofun
  | .knot .., .set _ | .knot .., .pair .. => isFalse nofun

/-- Decides whether two lists of documents are the same as written. -/
def decideEqItems : (first second : List Document) → Decidable (first = second)
  | [], [] => isTrue rfl
  | [], _ :: _ | _ :: _, [] => isFalse nofun
  | x :: xs, y :: ys =>
    match decideEq x y, decideEqItems xs ys with
    | isTrue head, isTrue tail => isTrue (by rw [head, tail])
    | isFalse different, _ => isFalse (by simp [different])
    | _, isFalse different => isFalse (by simp [different])

/-- Decides whether two lists of fields are the same as written. -/
def decideEqFields : (first second : List (Scalar × Document)) → Decidable (first = second)
  | [], [] => isTrue rfl
  | [], _ :: _ | _ :: _, [] => isFalse nofun
  | (k, x) :: xs, (l, y) :: ys =>
    if keys : k = l then
      match decideEq x y, decideEqFields xs ys with
      | isTrue head, isTrue tail => isTrue (by rw [keys, head, tail])
      | isFalse different, _ => isFalse (by simp [different])
      | _, isFalse different => isFalse (by simp [different])
    else isFalse (by simp [keys])
end

instance : DecidableEq Document := decideEq

/-! ## Fields -/

/-- The value of the field of a given name. -/
def lookup {α : Type} (key : Scalar) : List (Scalar × α) → Option α
  | [] => none
  | (name, value) :: rest => if name.same key then some value else lookup key rest

/-- Gives a field a value: in place if the name is there, at the end otherwise. -/
def assign {α : Type} (key : Scalar) (value : α) : List (Scalar × α) → List (Scalar × α)
  | [] => [(key, value)]
  | (name, old) :: rest =>
    if name.same key then (name, value) :: rest else (name, old) :: assign key value rest

theorem lookup_assign {α : Type} (key other : Scalar) (value : α) (fields : List (Scalar × α)) :
    lookup other (assign key value fields) =
      if other.same key then some value else lookup other fields := by
  induction fields with
  | nil => cases same : other.same key <;> simp [assign, lookup, Scalar.same_comm key, same]
  | cons field rest ih =>
    obtain ⟨name, old⟩ := field
    cases here : name.same key with
    | true =>
      have there : name.same other = other.same key := by
        cases same : other.same key with
        | true => exact Scalar.same_trans here (Scalar.same_comm other key ▸ same)
        | false =>
          cases reached : name.same other with
          | false => rfl
          | true =>
            rw [← same, Scalar.same_trans (Scalar.same_comm name other ▸ reached) here]
      cases same : other.same key <;> simp [assign, lookup, here, there, same]
    | false =>
      cases same : name.same other with
      | true =>
        have foreign : other.same key = false := by
          cases reached : other.same key with
          | false => rfl
          | true => rw [← here, Scalar.same_trans same reached]
        simp [assign, lookup, here, same, foreign]
      | false => simp [assign, lookup, here, same, ih]

theorem mem_of_lookup {α : Type} {key : Scalar} {fields : List (Scalar × α)} {value : α}
    (found : lookup key fields = some value) :
    ∃ field ∈ fields, field.1.same key = true ∧ field.2 = value := by
  induction fields with
  | nil => cases found
  | cons field rest ih =>
    obtain ⟨name, held⟩ := field
    rw [lookup] at found
    split at found
    · next here => exact ⟨(name, held), List.mem_cons_self, here, Option.some.inj found⟩
    · obtain ⟨field, present, named, holds⟩ := ih found
      exact ⟨field, List.mem_cons_of_mem _ present, named, holds⟩

/-- Under names that denote the same there is the same field. -/
theorem lookup_congr {α : Type} {key other : Scalar} (alike : key.same other = true)
    (fields : List (Scalar × α)) : lookup key fields = lookup other fields := by
  induction fields with
  | nil => rfl
  | cons field rest ih =>
    have tests : field.1.same key = field.1.same other := by
      simp only [Scalar.same, decide_eq_true_eq] at alike ⊢
      rw [alike]
    rw [lookup, lookup, tests, ih]

/-! ## What documents denote -/

mutual
/-- Whether two documents denote the same: equal simple values, lists with the same items, maps with
the same fields in any order. -/
def same : Document → Document → Bool
  | .scalar a, .scalar b => a.same b
  | .list xs, .list ys => sameItems xs ys
  | .map xs, .map ys => xs.length == ys.length && sameFields xs ys
  | .set xs, .set ys => xs.length == ys.length && xs.all fun x => ys.any x.same
  | .pair x x', .pair y y' => same x y && same x' y'
  | .knot web place, .knot web' place' => decide (web = web' ∧ place = place')
  | _, _ => false

/-- Whether two lists have the same items. -/
def sameItems : List Document → List Document → Bool
  | [], [] => true
  | x :: xs, y :: ys => same x y && sameItems xs ys
  | _, _ => false

/-- Whether each of the given fields stands in a map with the same value. -/
def sameFields : List (Scalar × Document) → List (Scalar × Document) → Bool
  | [], _ => true
  | (key, value) :: rest, others =>
    (match lookup key others with
    | some other => same value other
    | none => false) && sameFields rest others
end

/-! ## Knots -/

/-- The document at a place of a web: a knot, unless a simple value or a set stands there. -/
def inWeb (web : Web) (place : Nat) : Document :=
  match web[place]? with
  | some (.scalar value) => .scalar value
  | some (.set members) => .set members
  | some _ => .knot web place
  | none => .null

/-- The document of a cell in a web, its parts left in the web. -/
def ofCell (web : Web) : Cell → Document
  | .scalar value => .scalar value
  | .list items => .list (items.map (inWeb web))
  | .map fields => .map (fields.map fun (key, place) => (key, inWeb web place))
  | .set members => .set members
  | .pair first second => .pair (inWeb web first) (inWeb web second)

/-- A document whose outermost level is in sight: that of a knot is undone. -/
def opened : Document → Document
  | .knot web place => ofCell web (web[place]?.getD (.scalar .null))
  | document => document

/-- Whether a document counts as true: nulls, false, zeros and everything empty do not. -/
def truthy (document : Document) : Bool :=
  match document.opened with
  | .scalar value => value.truthy
  | .list items => !items.isEmpty
  | .map fields => !fields.isEmpty
  | .set members => !members.isEmpty
  | .pair .. | .knot .. => true

end Document

end FeatureResolution
