import FeatureResolution.Label

/-!
# Finite sets of names

A `NameSet` is a strictly ascending list of labels. The order is the invariant of the type, so
listing the members is listing them sorted, and no two members denote the same. A set keeps the
member it was given first when it is given another one that denotes the same.

Each operation is described by one membership lemma (`mem_insert`, `mem_ofList`, `mem_union`,
`mem_filter`, `mem_diff`), and reasoning about sets goes through these. For texts a set has exactly
one representation: two sets of texts with the same members are equal (`NameSet.ext`).
-/

namespace FeatureResolution

/-- A finite set of labels, kept as its strictly ascending list of members. -/
structure NameSet (ν : Type) [Label ν] where
  toList : List ν
  ascending : toList.Pairwise fun first second => Label.before first second = true
deriving DecidableEq, Repr

namespace NameSet

variable {ν : Type} [Label ν]

/-! ## Ascending lists -/

/-- Puts a label into an ascending list, unless one that denotes the same is there. -/
def insertAscending (name : ν) : List ν → List ν
  | [] => [name]
  | head :: rest =>
    if Label.before name head then name :: head :: rest
    else if Label.same name head then head :: rest
    else head :: insertAscending name rest

theorem of_mem_insertAscending {name other : ν} {names : List ν}
    (present : other ∈ insertAscending name names) : other = name ∨ other ∈ names := by
  induction names with
  | nil => simpa [insertAscending] using present
  | cons head rest ih =>
    unfold insertAscending at present
    split at present
    · simpa using present
    · split at present
      · exact .inr present
      · rcases List.mem_cons.1 present with rfl | later
        · exact .inr (by simp)
        · exact (ih later).imp id fun inRest => List.mem_cons_of_mem _ inRest

theorem any_insertAscending {name other : ν} {names : List ν} :
    (insertAscending name names).any (Label.same · other) =
      (Label.same name other || names.any (Label.same · other)) := by
  induction names with
  | nil => simp [insertAscending]
  | cons head rest ih =>
    unfold insertAscending
    split
    · simp
    · split
      · next equal =>
        have alike : Label.same name other = Label.same head other := by
          simp only [Label.same, decide_eq_true_eq] at equal ⊢
          rw [equal]
        simp [alike]
      · simp [ih, Bool.or_left_comm]

theorem pairwise_insertAscending (name : ν) {names : List ν}
    (ascending : names.Pairwise fun first second => Label.before first second = true) :
    (insertAscending name names).Pairwise fun first second =>
      Label.before first second = true := by
  induction names with
  | nil => simp [insertAscending]
  | cons head rest ih =>
    obtain ⟨headFirst, restAscending⟩ := List.pairwise_cons.1 ascending
    unfold insertAscending
    split
    · next below =>
      refine List.pairwise_cons.2 ⟨fun other present => ?_, ascending⟩
      rcases List.mem_cons.1 present with rfl | inRest
      · exact below
      · exact Label.before_trans below (headFirst other inRest)
    · next notBelow =>
      split
      · exact ascending
      · next distinct =>
        refine List.pairwise_cons.2 ⟨fun other present => ?_, ih restAscending⟩
        rcases of_mem_insertAscending present with rfl | inRest
        · exact Label.before_of_not_before (by simpa using notBelow) (by simpa using distinct)
        · exact headFirst other inRest

/-- An ascending list of texts is determined by its members. -/
theorem ascending_unique {first second : List String} (firstAscending : first.Pairwise (· < ·))
    (secondAscending : second.Pairwise (· < ·)) (same : ∀ name, name ∈ first ↔ name ∈ second) :
    first = second := by
  induction first generalizing second with
  | nil =>
    cases second with
    | nil => rfl
    | cons head rest => exact absurd ((same head).2 (by simp)) (by simp)
  | cons head rest ih =>
    cases second with
    | nil => exact absurd ((same head).1 (by simp)) (by simp)
    | cons other more =>
      obtain ⟨headFirst, restAscending⟩ := List.pairwise_cons.1 firstAscending
      obtain ⟨otherFirst, moreAscending⟩ := List.pairwise_cons.1 secondAscending
      have heads : head = other := by
        rcases List.mem_cons.1 ((same head).1 (by simp)) with equal | later
        · exact equal
        · rcases List.mem_cons.1 ((same other).2 (by simp)) with equal | earlier
          · exact equal.symm
          · exact absurd (headFirst other earlier) (String.lt_asymm (otherFirst head later))
      subst heads
      refine congrArg (head :: ·) (ih restAscending moreAscending fun name => ?_)
      have whole := same name
      simp only [List.mem_cons] at whole
      constructor
      · intro inRest
        rcases whole.1 (.inr inRest) with rfl | inMore
        · exact absurd (headFirst name inRest) (String.lt_irrefl name)
        · exact inMore
      · intro inMore
        rcases whole.2 (.inr inMore) with rfl | inRest
        · exact absurd (otherFirst name inMore) (String.lt_irrefl name)
        · exact inRest

/-! ## Members -/

/-- Whether a set has a member that denotes the same as a label. -/
def has (names : NameSet ν) (name : ν) : Bool :=
  names.toList.any (Label.same · name)

instance : Membership ν (NameSet ν) :=
  ⟨fun names name => names.has name = true⟩

instance (name : ν) (names : NameSet ν) : Decidable (name ∈ names) :=
  inferInstanceAs (Decidable (names.has name = true))

theorem has_iff {name : ν} {names : NameSet ν} : names.has name = true ↔ name ∈ names :=
  Iff.rfl

/-- A label is a member when a listed one denotes the same. -/
theorem mem_iff {name : ν} {names : NameSet ν} :
    name ∈ names ↔ ∃ member ∈ names.toList, Label.same member name = true :=
  List.any_eq_true

theorem mem_of_mem_toList {name : ν} {names : NameSet ν} (listed : name ∈ names.toList) :
    name ∈ names :=
  mem_iff.2 ⟨name, listed, Label.same_refl name⟩

theorem mem_congr {name other : ν} {names : NameSet ν} (alike : Label.same name other = true) :
    name ∈ names ↔ other ∈ names := by
  simp only [mem_iff, Label.same_congr alike]

/-- A text is a member of a set when it is listed. -/
@[simp] theorem mem_toList {name : String} {names : NameSet String} :
    name ∈ names.toList ↔ name ∈ names := by
  simp [← has_iff, has]

theorem toList_pairwise_lt (names : NameSet String) : names.toList.Pairwise (· < ·) :=
  names.ascending.imp fun ordered => by simpa using ordered

theorem nodup_toList (names : NameSet String) : names.toList.Nodup :=
  names.toList_pairwise_lt.imp fun below => String.ne_of_lt below

@[ext] theorem ext {first second : NameSet String}
    (same : ∀ name, name ∈ first ↔ name ∈ second) : first = second := by
  have lists := ascending_unique first.toList_pairwise_lt second.toList_pairwise_lt fun name => by
    rw [mem_toList, mem_toList, same name]
  cases first
  cases second
  cases lists
  rfl

/-! ## Order -/

/-- In the list of a set the names before a member are those below it. -/
theorem mem_before_iff {names : NameSet String} {before after : List String} {name : String}
    (whole : names.toList = before ++ name :: after) {other : String} :
    other ∈ before ↔ other ∈ names ∧ other < name := by
  have ascending := names.toList_pairwise_lt
  rw [whole, List.pairwise_append, List.pairwise_cons] at ascending
  obtain ⟨_, ⟨belowAfter, _⟩, beforeBelow⟩ := ascending
  rw [← mem_toList, whole, List.mem_append, List.mem_cons]
  constructor
  · exact fun present => ⟨.inl present, beforeBelow other present name List.mem_cons_self⟩
  · rintro ⟨present | rfl | later, below⟩
    · exact present
    · exact absurd below (String.lt_irrefl other)
    · exact absurd below (String.lt_asymm (belowAfter other later))

/-- The first listed member with a property is the least one with it. -/
theorem find?_toList_eq_some_iff {names : NameSet String} {test : String → Bool} {name : String} :
    names.toList.find? test = some name ↔
      name ∈ names ∧ test name = true ∧ ∀ other ∈ names, test other = true → name ≤ other := by
  rw [List.find?_eq_some_iff_append]
  constructor
  · rintro ⟨passes, before, after, whole, noneBefore⟩
    refine ⟨by rw [← mem_toList, whole]; simp, passes, fun other present otherPasses => ?_⟩
    refine String.not_lt.1 fun below => ?_
    have rejected := noneBefore other ((mem_before_iff whole).2 ⟨present, below⟩)
    simp [otherPasses] at rejected
  · rintro ⟨present, passes, least⟩
    obtain ⟨before, after, whole⟩ := List.append_of_mem (mem_toList.2 present)
    refine ⟨passes, before, after, whole, fun other earlier => ?_⟩
    obtain ⟨otherPresent, below⟩ := (mem_before_iff whole).1 earlier
    refine Bool.not_eq_true' _ ▸ Bool.eq_false_iff.2 fun otherPasses => ?_
    exact String.not_lt.2 (least other otherPresent otherPasses) below

/-! ## Operations -/

/-- The set without members. -/
def empty : NameSet ν :=
  ⟨[], .nil⟩

instance : EmptyCollection (NameSet ν) := ⟨empty⟩

instance : Inhabited (NameSet ν) := ⟨empty⟩

@[simp] theorem not_mem_empty (name : ν) : name ∉ (∅ : NameSet ν) :=
  Bool.false_ne_true

/-- Adds one member. -/
def insert (names : NameSet ν) (name : ν) : NameSet ν :=
  ⟨insertAscending name names.toList, pairwise_insertAscending name names.ascending⟩

@[simp] theorem mem_insert {name other : ν} {names : NameSet ν} :
    other ∈ names.insert name ↔ Label.same name other = true ∨ other ∈ names := by
  simp only [← has_iff, has, insert, any_insertAscending, Bool.or_eq_true]

theorem mem_insert_text {name other : String} {names : NameSet String} :
    other ∈ names.insert name ↔ other = name ∨ other ∈ names := by
  rw [mem_insert, Label.same_text, decide_eq_true_eq, eq_comm]

/-- Adds the members of a list, one after the other. -/
def insertAll (names : NameSet ν) (others : List ν) : NameSet ν :=
  others.foldl insert names

theorem mem_insertAll {name : ν} {names : NameSet ν} {others : List ν} :
    name ∈ names.insertAll others ↔ name ∈ names ∨ others.any (Label.same · name) = true := by
  induction others generalizing names with
  | nil => simp [insertAll]
  | cons head rest ih =>
    have step : names.insertAll (head :: rest) = (names.insert head).insertAll rest := rfl
    rw [step, ih, mem_insert, List.any_cons, Bool.or_eq_true]
    grind

/-- The set of the labels in a list; order and repetition are forgotten. -/
def ofList (names : List ν) : NameSet ν :=
  insertAll ∅ names

theorem mem_ofList_iff {name : ν} {names : List ν} :
    name ∈ ofList names ↔ ∃ member ∈ names, Label.same member name = true := by
  simp [ofList, mem_insertAll]

@[simp] theorem mem_ofList {name : String} {names : List String} :
    name ∈ ofList names ↔ name ∈ names := by
  simp [ofList, mem_insertAll]

/-- The members of either set. -/
def union (first second : NameSet ν) : NameSet ν :=
  first.insertAll second.toList

instance : Union (NameSet ν) := ⟨union⟩

@[simp] theorem mem_union {name : ν} {first second : NameSet ν} :
    name ∈ first ∪ second ↔ name ∈ first ∨ name ∈ second :=
  mem_insertAll

/-- The members that pass a test. -/
def filter (test : ν → Bool) (names : NameSet ν) : NameSet ν :=
  ⟨names.toList.filter test, names.ascending.filter _⟩

@[simp] theorem mem_filter {test : String → Bool} {name : String} {names : NameSet String} :
    name ∈ names.filter test ↔ name ∈ names ∧ test name = true := by
  rw [← mem_toList, ← mem_toList]
  exact List.mem_filter

/-- The members of the first set that are not in the second. -/
def diff (first second : NameSet ν) : NameSet ν :=
  first.filter fun name => !second.has name

instance : SDiff (NameSet ν) := ⟨diff⟩

@[simp] theorem mem_diff {name : String} {first second : NameSet String} :
    name ∈ first \ second ↔ name ∈ first ∧ name ∉ second := by
  change name ∈ first.filter _ ↔ _
  rw [mem_filter]
  simp [← @has_iff _ _ name second]

/-- Removes one member. -/
def erase (names : NameSet ν) (name : ν) : NameSet ν :=
  names.filter fun member => !Label.same member name

@[simp] theorem mem_erase {name other : String} {names : NameSet String} :
    other ∈ names.erase name ↔ other ∈ names ∧ other ≠ name := by
  simp [erase]

/-- The members in ascending order, where the labels have an order. -/
def sorted (names : NameSet ν) : Except Error (List ν) :=
  Label.ordered names.toList

@[simp] theorem sorted_text (names : NameSet String) : names.sorted = .ok names.toList :=
  Label.ordered_text names.toList

/-- The number of members. -/
def size (names : NameSet ν) : Nat :=
  names.toList.length

/-- Whether the set has no members. -/
def isEmpty (names : NameSet ν) : Bool :=
  names.toList.isEmpty

theorem isEmpty_iff {names : NameSet ν} : names.isEmpty = true ↔ names = ∅ := by
  constructor
  · intro noMembers
    obtain ⟨members, ascending⟩ := names
    cases members with
    | nil => rfl
    | cons head rest => cases noMembers
  · rintro rfl
    rfl

/-- A set that is not the empty one has a member. -/
theorem exists_mem_of_ne_empty {names : NameSet String} (notEmpty : names ≠ ∅) :
    ∃ name, name ∈ names := by
  obtain ⟨members, ascending⟩ := names
  cases members with
  | nil => exact absurd rfl notEmpty
  | cons head rest => exact ⟨head, mem_toList.1 List.mem_cons_self⟩

/-- Whether two sets have the same members. -/
def agrees (first second : NameSet ν) : Bool :=
  first.size == second.size && first.toList.all second.has

/-- One set is part of another when every member of the first is in the second. -/
instance : HasSubset (NameSet ν) :=
  ⟨fun first second => ∀ name ∈ first, name ∈ second⟩

theorem subset_iff {first second : NameSet ν} :
    first ⊆ second ↔ ∀ name ∈ first, name ∈ second :=
  Iff.rfl

end NameSet

end FeatureResolution
