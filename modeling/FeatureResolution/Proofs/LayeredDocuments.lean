import FeatureResolution.Document.Merge
import Mathlib.Data.Nat.Find

/-!
# Layered documents along a path

What a document holds at a path of names is found by going down from map to map (`Document.at?`). Of
a document that has been laid over another this can be told by the names on the path alone
(`LaidOver`):

* where the upper layer, on the way to the end of the path, comes to something that is no map or
  meets no map below, the upper layer stands from there on (`Supersedes`);
* where the upper layer comes to nothing, the lower layer shows through;
* in the remaining case both hold maps, and these are laid over each other.

A field of a merged map is the field of the upper layer over that of the lower
(`lookup_overlayFields`), and down a path this is said of every step (`follows_overlay`).
-/

namespace FeatureResolution.Document

/-! ## What a document holds at a path -/

/-- Whether a document is a map. -/
def isMap (document : Document) : Bool :=
  match document.opened with
  | .map _ => true
  | _ => false

/-- What a document holds at a path of names. -/
def at? : Document → List Scalar → Option Document
  | document, [] => some document
  | document, key :: path =>
    match document.opened with
    | .map fields => (lookup key fields).bind (at? · path)
    | _ => none

/-- Where names lead, no map has two fields of one name, and nothing contains itself. All documents
of JSON are keyed. -/
inductive Keyed : Document → Prop
  | scalar (value : Scalar) : Keyed (.scalar value)
  | list (items : List Document) : Keyed (.list items)
  | map {fields : List (Scalar × Document)} :
      (fields.Pairwise fun first second => first.1.same second.1 = false) →
      (∀ field ∈ fields, Keyed field.2) → Keyed (.map fields)
  | set (members : List Scalar) : Keyed (.set members)
  | pair (first second : Document) : Keyed (.pair first second)

variable {upper lower merged value old document : Document} {key : Scalar} {path : List Scalar}

theorem isMap_iff : document.isMap = true ↔ ∃ fields, document.opened = .map fields := by
  unfold isMap
  cases document.opened <;> simp

theorem at?_cons {fields : List (Scalar × Document)} (isMap : document.opened = .map fields) :
    document.at? (key :: path) = (lookup key fields).bind (at? · path) := by
  rw [at?, isMap]

theorem Keyed.opened (keyed : document.Keyed) : document.opened = document := by
  cases keyed <;> rfl

theorem Keyed.distinct {fields : List (Scalar × Document)} (keyed : (Document.map fields).Keyed) :
    fields.Pairwise fun first second => first.1.same second.1 = false := by
  cases keyed with
  | map distinct _ => exact distinct

theorem Keyed.of_lookup {fields : List (Scalar × Document)} (keyed : (Document.map fields).Keyed)
    (found : lookup key fields = some value) : value.Keyed := by
  obtain ⟨field, present, _, rfl⟩ := mem_of_lookup found
  cases keyed with
  | map _ each => exact each field present

theorem keyed_single (keyed : value.Keyed) : (Document.map [(key, value)]).Keyed :=
  .map (List.pairwise_singleton _ _) (List.forall_mem_singleton.2 keyed)

/-! ## Where the upper layer stands -/

/-- At a path the upper layer holds something that is no map or meets no map below. -/
def Supersedes (upper lower : Document) (path : List Scalar) : Prop :=
  ∃ value, upper.at? path = some value ∧
    (value.isMap = false ∨ ∀ old, lower.at? path = some old → old.isMap = false)

/-- The shortest first part of a path that is not empty and at which the upper layer supersedes the
lower has the given length. -/
structure SupersedesFirst (upper lower : Document) (path : List Scalar) (length : Nat) : Prop where
  nonempty : 0 < length
  within : length ≤ path.length
  here : Supersedes upper lower (path.take length)
  notBefore : ∀ shorter, 0 < shorter → shorter < length →
    ¬ Supersedes upper lower (path.take shorter)

/-- Somewhere on the way to the end of a path the upper layer supersedes the lower. -/
def Superseded (upper lower : Document) (path : List Scalar) : Prop :=
  ∃ length, 0 < length ∧ length ≤ path.length ∧ Supersedes upper lower (path.take length)

theorem exists_supersedesFirst_iff :
    (∃ length, SupersedesFirst upper lower path length) ↔ Superseded upper lower path := by
  constructor
  · rintro ⟨length, first⟩
    exact ⟨length, first.nonempty, first.within, first.here⟩
  · intro superseded
    classical
    obtain ⟨nonempty, within, here⟩ := Nat.find_spec superseded
    refine ⟨Nat.find superseded, nonempty, within, here, fun shorter positive below holds => ?_⟩
    exact Nat.find_min superseded below ⟨positive, by omega, holds⟩

/-- What a document that has been laid over another holds at each path. -/
structure LaidOver (upper lower merged : Document) : Prop where
  replaced : ∀ path length, SupersedesFirst upper lower path length →
    merged.at? path = upper.at? path
  shown : ∀ path, (∀ length, ¬ SupersedesFirst upper lower path length) →
    upper.at? path = none → merged.at? path = lower.at? path
  joined : ∀ path held, (∀ length, ¬ SupersedesFirst upper lower path length) →
    upper.at? path = some held → ∃ under both, lower.at? path = some under ∧
      held.isMap = true ∧ under.isMap = true ∧ under.merge held = .ok both ∧
      merged.at? path = some both

/-! ## Fields laid over each other -/

/-- A value over what is held below it, if anything is. -/
def laidOn (value : Document) : Option Document → Document
  | some old => overlay value old
  | none => value

theorem overlayFields_cons {rest fields : List (Scalar × Document)} :
    overlayFields ((key, value) :: rest) fields =
      overlayFields rest (assign key (value.laidOn (lookup key fields)) fields) := by
  rw [overlayFields]
  cases lookup key fields <;> rfl

/-- A field of a merged map is that of the upper layer over that of the lower. -/
theorem lookup_overlayFields {fields below : List (Scalar × Document)}
    (distinct : fields.Pairwise fun first second => first.1.same second.1 = false) :
    lookup key (overlayFields fields below) =
      match lookup key fields with
      | some value => some (value.laidOn (lookup key below))
      | none => lookup key below := by
  induction fields generalizing below with
  | nil => rfl
  | cons field rest ih =>
    obtain ⟨name, value⟩ := field
    obtain ⟨others, restDistinct⟩ := List.pairwise_cons.1 distinct
    rw [overlayFields_cons, ih restDistinct, lookup_assign, lookup, Scalar.same_comm key name]
    cases here : name.same key with
    | false => rfl
    | true =>
      have noOther : lookup key rest = none := by
        by_contra held
        obtain ⟨value, found⟩ := Option.ne_none_iff_exists'.1 held
        obtain ⟨other, present, named, _⟩ := mem_of_lookup found
        have apart := others other present
        rw [Scalar.same_trans here (Scalar.same_comm key other.1 ▸ named)] at apart
        cases apart
      rw [noOther, lookup_congr here]
      rfl

/-- What is no map, or does not meet one, stands as it is. -/
theorem overlay_of_not_maps (keyed : value.Keyed)
    (apart : ¬ (value.isMap = true ∧ old.isMap = true)) : overlay value old = value := by
  cases keyed with
  | map =>
    rw [overlay]
    split
    · next fields isMap => exact absurd ⟨rfl, isMap_iff.2 ⟨fields, isMap⟩⟩ apart
    · rfl
  | _ => rfl

theorem laidOn_of_apart {below : Option Document} (keyed : value.Keyed)
    (apart : ∀ old, below = some old → ¬ (value.isMap = true ∧ old.isMap = true)) :
    value.laidOn below = value := by
  cases below with
  | none => rfl
  | some old => exact overlay_of_not_maps keyed (apart old rfl)

/-- A keyed document does not share maps with another without end. -/
theorem shareMaps_eq_false (keyed : upper.Keyed) (levels : Nat) (lower : Document) :
    shareMaps levels upper lower = false := by
  induction levels generalizing upper lower with
  | zero =>
    unfold shareMaps
    have noKnot : upper.isKnot = false := by cases keyed <;> rfl
    rw [noKnot]
    split <;> rfl
  | succ levels ih =>
    unfold shareMaps
    rw [keyed.opened]
    split
    · next fields below _ =>
      refine List.any_eq_false.2 fun ⟨name, value⟩ present => ?_
      cases keyed with
      | map _ each =>
        dsimp only
        split
        · rw [ih (each _ present)]
          exact Bool.false_ne_true
        · exact Bool.false_ne_true
    · rfl

theorem merge_eq_overlay (keyed : upper.Keyed) (upperMap : upper.isMap = true)
    (lowerMap : lower.isMap = true) : lower.merge upper = .ok (overlay upper lower) := by
  obtain ⟨fields, isMap⟩ := isMap_iff.1 upperMap
  obtain ⟨below, isMapBelow⟩ := isMap_iff.1 lowerMap
  rw [merge, isMap, isMapBelow]
  dsimp only
  rw [hasNoEnd, shareMaps_eq_false keyed, if_neg Bool.false_ne_true]

/-! ## Down a path -/

/-- What a document that has been laid over another holds at one path. -/
structure Follows (upper lower merged : Document) (path : List Scalar) : Prop where
  replaced : Superseded upper lower path → merged.at? path = upper.at? path
  shown : ¬ Superseded upper lower path → upper.at? path = none → merged.at? path = lower.at? path
  joined : ¬ Superseded upper lower path → ∀ held, upper.at? path = some held →
    ∃ under both, lower.at? path = some under ∧ held.isMap = true ∧ under.isMap = true ∧
      under.merge held = .ok both ∧ merged.at? path = some both

section Maps

variable {fields below result : List (Scalar × Document)}

theorem at?_of_lookup (isMap : document.opened = .map fields)
    (found : lookup key fields = some value) : document.at? (key :: path) = value.at? path := by
  rw [at?_cons isMap, found, Option.bind_some]

theorem at?_of_lookup_none (isMap : document.opened = .map fields)
    (missing : lookup key fields = none) : document.at? (key :: path) = none := by
  rw [at?_cons isMap, missing, Option.bind_none]

theorem not_superseded_nil : ¬ Superseded upper lower [] := by
  rintro ⟨length, nonempty, within, _⟩
  exact absurd within (Nat.not_le.2 nonempty)

theorem superseded_of_here (here : Supersedes upper lower [key]) :
    Superseded upper lower (key :: path) :=
  ⟨1, Nat.one_pos, by simp, here⟩

theorem not_superseded_of_missing (isMap : upper.opened = .map fields)
    (missing : lookup key fields = none) : ¬ Superseded upper lower (key :: path) := by
  rintro ⟨length, nonempty, _, value, found, _⟩
  obtain ⟨rest, rfl⟩ := Nat.exists_eq_succ_of_ne_zero (Nat.pos_iff_ne_zero.1 nonempty)
  rw [List.take_succ_cons, at?_of_lookup_none isMap missing] at found
  cases found

/-- A value that is no map, or does not meet one, supersedes what is below it. -/
theorem supersedes_of_apart (isMap : upper.opened = .map fields)
    (isMapBelow : lower.opened = .map below) (found : lookup key fields = some value)
    (apart : ∀ old, lookup key below = some old → ¬ (value.isMap = true ∧ old.isMap = true)) :
    Supersedes upper lower [key] := by
  refine ⟨value, at?_of_lookup isMap found, ?_⟩
  cases holdsMap : value.isMap with
  | false => exact .inl rfl
  | true =>
    refine .inr fun old held => ?_
    cases foundBelow : lookup key below with
    | none =>
      rw [at?_of_lookup_none isMapBelow foundBelow] at held
      cases held
    | some document =>
      rw [at?_of_lookup isMapBelow foundBelow] at held
      cases held
      simpa [holdsMap] using apart _ foundBelow

/-- Below a name under which both layers hold maps, these decide. -/
theorem superseded_cons_iff (isMap : upper.opened = .map fields)
    (isMapBelow : lower.opened = .map below) (found : lookup key fields = some value)
    (foundBelow : lookup key below = some old) (valueMap : value.isMap = true)
    (oldMap : old.isMap = true) :
    Superseded upper lower (key :: path) ↔ Superseded value old path := by
  have step (path : List Scalar) :
      Supersedes upper lower (key :: path) ↔ Supersedes value old path := by
    rw [Supersedes, Supersedes, at?_of_lookup isMap found, at?_of_lookup isMapBelow foundBelow]
  constructor
  · rintro ⟨length, nonempty, within, here⟩
    obtain ⟨rest, rfl⟩ := Nat.exists_eq_succ_of_ne_zero (Nat.pos_iff_ne_zero.1 nonempty)
    rw [List.take_succ_cons, step] at here
    cases rest with
    | zero =>
      obtain ⟨document, ⟨⟩, noMap | noMap⟩ := here
      · rw [valueMap] at noMap
        cases noMap
      · rw [noMap old rfl] at oldMap
        cases oldMap
    | succ rest => exact ⟨rest + 1, Nat.succ_pos rest, Nat.le_of_succ_le_succ within, here⟩
  · rintro ⟨length, nonempty, within, here⟩
    refine ⟨length + 1, Nat.succ_pos length, Nat.succ_le_succ within, ?_⟩
    rwa [List.take_succ_cons, step]

theorem Follows.of_missing (isMap : upper.opened = .map fields)
    (isMapBelow : lower.opened = .map below) (isMerged : merged.opened = .map result)
    (missing : lookup key fields = none) (field : lookup key result = lookup key below) :
    Follows upper lower merged (key :: path) := by
  have notSuperseded : ¬ Superseded upper lower (key :: path) :=
    not_superseded_of_missing isMap missing
  refine ⟨fun superseded => absurd superseded notSuperseded, fun _ _ => ?_, fun _ held found => ?_⟩
  · rw [at?_cons isMerged, field, at?_cons isMapBelow]
  · rw [at?_of_lookup_none isMap missing] at found
    cases found

theorem Follows.of_apart (isMap : upper.opened = .map fields)
    (isMapBelow : lower.opened = .map below) (isMerged : merged.opened = .map result)
    (found : lookup key fields = some value) (field : lookup key result = some value)
    (apart : ∀ old, lookup key below = some old → ¬ (value.isMap = true ∧ old.isMap = true)) :
    Follows upper lower merged (key :: path) := by
  have superseded : Superseded upper lower (key :: path) :=
    superseded_of_here (supersedes_of_apart isMap isMapBelow found apart)
  refine ⟨fun _ => ?_, fun none => absurd superseded none, fun none => absurd superseded none⟩
  rw [at?_of_lookup isMap found, at?_of_lookup isMerged field]

theorem Follows.of_both {both : Document} (isMap : upper.opened = .map fields)
    (isMapBelow : lower.opened = .map below) (isMerged : merged.opened = .map result)
    (found : lookup key fields = some value) (foundBelow : lookup key below = some old)
    (field : lookup key result = some both) (valueMap : value.isMap = true)
    (oldMap : old.isMap = true) (follows : Follows value old both path) :
    Follows upper lower merged (key :: path) := by
  have superseded : Superseded upper lower (key :: path) ↔ Superseded value old path :=
    superseded_cons_iff isMap isMapBelow found foundBelow valueMap oldMap
  have above : upper.at? (key :: path) = value.at? path := at?_of_lookup isMap found
  have under : lower.at? (key :: path) = old.at? path := at?_of_lookup isMapBelow foundBelow
  have joined : merged.at? (key :: path) = both.at? path := at?_of_lookup isMerged field
  constructor
  · rw [superseded, above, joined]
    exact follows.replaced
  · rw [superseded, above, joined, under]
    exact follows.shown
  · rw [superseded, above, joined, under]
    exact follows.joined

end Maps

theorem follows_overlay (keyed : upper.Keyed) (upperMap : upper.isMap = true)
    (lowerMap : lower.isMap = true) (path : List Scalar) :
    Follows upper lower (overlay upper lower) path := by
  induction path generalizing upper lower with
  | nil =>
    refine ⟨fun superseded => absurd superseded not_superseded_nil, nofun, ?_⟩
    rintro _ _ ⟨⟩
    exact ⟨lower, _, rfl, upperMap, lowerMap, merge_eq_overlay keyed upperMap lowerMap, rfl⟩
  | cons key path ih =>
    obtain ⟨fields, isMap⟩ := isMap_iff.1 upperMap
    obtain ⟨below, isMapBelow⟩ := isMap_iff.1 lowerMap
    cases keyed.opened.symm.trans isMap
    have isMerged : (overlay (.map fields) lower).opened = .map (overlayFields fields below) := by
      rw [overlay, isMapBelow]
      rfl
    have field : lookup key (overlayFields fields below) = _ := lookup_overlayFields keyed.distinct
    cases found : lookup key fields with
    | none =>
      rw [found] at field
      exact .of_missing isMap isMapBelow isMerged found field
    | some value =>
      have valueKeyed : value.Keyed := keyed.of_lookup found
      rw [found] at field
      dsimp only at field
      -- Only where both layers hold maps under the name does the path lead on in both.
      by_cases both : ∃ old, lookup key below = some old ∧ value.isMap = true ∧ old.isMap = true
      · obtain ⟨old, foundBelow, valueMap, oldMap⟩ := both
        rw [foundBelow] at field
        exact .of_both isMap isMapBelow isMerged found foundBelow field valueMap oldMap
          (ih valueKeyed valueMap oldMap)
      · have apart : ∀ old, lookup key below = some old →
            ¬ (value.isMap = true ∧ old.isMap = true) :=
          fun old foundBelow maps => both ⟨old, foundBelow, maps⟩
        rw [laidOn_of_apart valueKeyed apart] at field
        exact .of_apart isMap isMapBelow isMerged found field apart

/-- A document laid over another holds at each path what the rule says. -/
theorem laidOver_overlay (keyed : upper.Keyed) (upperMap : upper.isMap = true)
    (lowerMap : lower.isMap = true) : LaidOver upper lower (overlay upper lower) := by
  have follows (path : List Scalar) := follows_overlay keyed upperMap lowerMap path
  have nowhere (path : List Scalar) :
      (∀ length, ¬ SupersedesFirst upper lower path length) ↔ ¬ Superseded upper lower path := by
    rw [← exists_supersedesFirst_iff, not_exists]
  refine ⟨fun path length first => ?_, fun path none => ?_, fun path held none => ?_⟩
  · exact (follows path).replaced (exists_supersedesFirst_iff.1 ⟨length, first⟩)
  · exact (follows path).shown ((nowhere path).1 none)
  · exact (follows path).joined ((nowhere path).1 none) held

end FeatureResolution.Document
