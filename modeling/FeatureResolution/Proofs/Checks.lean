import FeatureResolution.NameSet
import Mathlib.Data.List.Forall2

/-!
# Checks that stop at the first error

A row of checks passes when each of them passes (`forM_eq_ok_iff`), and otherwise it fails as the
first check that fails (`forM_eq_error_iff`); over a set of names that is the check of the least
name that fails (`forM_toList_eq_error_iff`). What is read item by item is read when each item is
(`mapM_eq_ok_iff`), and otherwise fails as the first item does that cannot be read
(`mapM_eq_error_iff`). Where there is but one way to fail, the order and the number of the items
make no difference to what is read (`mapM_same_members`). Sets of names collected item by item make
up their union (`collect_eq_ok`).
-/

namespace FeatureResolution

variable {ε α β : Type}

@[simp] theorem ok_bind (value : α) (next : α → Except ε β) :
    (Except.ok value >>= next) = next value :=
  rfl

@[simp] theorem error_bind (error : ε) (next : α → Except ε β) :
    (Except.error error >>= next) = .error error :=
  rfl

@[simp] theorem pure_eq_ok (value : α) : (pure value : Except ε α) = .ok value :=
  rfl

@[simp] theorem throw_eq_error (error : ε) : (throw error : Except ε α) = .error error :=
  rfl

theorem bind_eq_ok_iff {first : Except ε α} {next : α → Except ε β} {result : β} :
    (first >>= next) = .ok result ↔ ∃ value, first = .ok value ∧ next value = .ok result := by
  cases first with
  | error error => exact ⟨nofun, nofun⟩
  | ok value =>
    constructor
    · exact fun passed => ⟨value, rfl, passed⟩
    · rintro ⟨_, ⟨⟩, passed⟩
      exact passed

theorem bind_eq_error_iff {first : Except ε α} {next : α → Except ε β} {error : ε} :
    (first >>= next) = .error error ↔
      first = .error error ∨ ∃ value, first = .ok value ∧ next value = .error error := by
  cases first with
  | error cause =>
    constructor
    · rintro ⟨⟩
      exact .inl rfl
    · rintro (⟨⟨⟩⟩ | ⟨_, ⟨⟩, _⟩)
      rfl
  | ok value =>
    constructor
    · exact fun failed => .inr ⟨value, rfl, failed⟩
    · rintro (⟨⟨⟩⟩ | ⟨_, ⟨⟩, failed⟩)
      exact failed

theorem map_eq_ok_iff {result : Except ε α} {change : α → β} {value : β} :
    result.map change = .ok value ↔ ∃ before, result = .ok before ∧ change before = value := by
  cases result <;> simp [Except.map]

theorem map_eq_error_iff {result : Except ε α} {change : α → β} {error : ε} :
    result.map change = .error error ↔ result = .error error := by
  cases result <;> simp [Except.map]

/-! ## Rows of checks -/

/-- A check passes unless it fails in some way. -/
theorem check_eq_ok_iff {check : Except ε Unit} :
    check = .ok () ↔ ∀ error, check ≠ .error error := by
  cases check with
  | ok _ => simp
  | error error => exact ⟨nofun, fun passes => absurd rfl (passes error)⟩

theorem forM_cons {check : α → Except ε Unit} {head : α} {rest : List α} :
    (head :: rest).forM check = check head >>= fun _ => rest.forM check :=
  rfl

theorem forM_congr {check other : α → Except ε Unit} {items : List α}
    (same : ∀ item ∈ items, check item = other item) : items.forM check = items.forM other := by
  induction items with
  | nil => rfl
  | cons head rest ih =>
    obtain ⟨headSame, restSame⟩ := List.forall_mem_cons.1 same
    rw [forM_cons, forM_cons, headSame, ih restSame]

/-- Of a row only those items are checked that something is picked out of. -/
theorem forM_filterMap {check : β → Except ε Unit} {pick : α → Option β} (items : List α) :
    (items.filterMap pick).forM check = items.forM fun item => (pick item).elim (.ok ()) check := by
  induction items with
  | nil => rfl
  | cons head rest ih =>
    rw [forM_cons, ← ih]
    cases picked : pick head with
    | none =>
      rw [List.filterMap_cons_none picked]
      rfl
    | some value =>
      rw [List.filterMap_cons_some picked]
      rfl

theorem forM_eq_ok_iff {check : α → Except ε Unit} {items : List α} :
    items.forM check = .ok () ↔ ∀ item ∈ items, check item = .ok () := by
  induction items with
  | nil => exact ⟨fun _ => nofun, fun _ => rfl⟩
  | cons head rest ih =>
    rw [forM_cons, bind_eq_ok_iff, List.forall_mem_cons, ← ih]
    exact ⟨fun ⟨_, headPasses, restPasses⟩ => ⟨headPasses, restPasses⟩,
      fun ⟨headPasses, restPasses⟩ => ⟨(), headPasses, restPasses⟩⟩

/-- A row of checks fails as the first of them that fails. -/
theorem forM_eq_error_iff {check : α → Except ε Unit} {items : List α} {error : ε} :
    items.forM check = .error error ↔
      ∃ before item after, items = before ++ item :: after ∧
        (∀ earlier ∈ before, check earlier = .ok ()) ∧ check item = .error error := by
  induction items with
  | nil => simp
  | cons head rest ih =>
    rw [forM_cons, bind_eq_error_iff, ih]
    constructor
    · rintro (failed | ⟨⟨⟩, passed, before, item, after, rfl, earlier, failed⟩)
      · exact ⟨[], head, rest, rfl, nofun, failed⟩
      · exact ⟨head :: before, item, after, rfl, by simpa using ⟨passed, earlier⟩, failed⟩
    · rintro ⟨before, item, after, whole, earlier, failed⟩
      cases before with
      | nil =>
        cases whole
        exact .inl failed
      | cons first before =>
        cases whole
        obtain ⟨passed, earlier⟩ := List.forall_mem_cons.1 earlier
        exact .inr ⟨(), passed, before, item, after, rfl, earlier, failed⟩

/-- A row of checks over a set fails as its least member that fails. -/
theorem forM_toList_eq_error_iff {check : String → Except ε Unit} {names : NameSet String}
    {error : ε} : names.toList.forM check = .error error ↔
      ∃ name ∈ names, check name = .error error ∧
        ∀ other ∈ names, (∃ cause, check other = .error cause) → name ≤ other := by
  rw [forM_eq_error_iff]
  constructor
  · rintro ⟨before, name, after, whole, earlierPass, failed⟩
    refine ⟨name, by rw [← NameSet.mem_toList, whole]; simp, failed, ?_⟩
    rintro other present ⟨cause, otherFailed⟩
    refine String.not_lt.1 fun below => ?_
    have passed := earlierPass other ((NameSet.mem_before_iff whole).2 ⟨present, below⟩)
    rw [otherFailed] at passed
    cases passed
  · rintro ⟨name, present, failed, least⟩
    obtain ⟨before, after, whole⟩ := List.append_of_mem (NameSet.mem_toList.2 present)
    refine ⟨before, name, after, whole, fun earlier inBefore => ?_, failed⟩
    obtain ⟨earlierPresent, below⟩ := (NameSet.mem_before_iff whole).1 inBefore
    refine check_eq_ok_iff.2 fun cause earlierFailed => ?_
    exact String.not_lt.2 (least earlier earlierPresent ⟨cause, earlierFailed⟩) below

/-! ## Rows of reads -/

theorem mapM_eq_ok_iff {read : α → Except ε β} {items : List α} {results : List β} :
    items.mapM read = .ok results ↔
      List.Forall₂ (fun item result => read item = .ok result) items results := by
  induction items generalizing results with
  | nil =>
    rw [List.mapM_nil, List.forall₂_nil_left_iff]
    constructor
    · rintro ⟨⟩
      rfl
    · rintro rfl
      rfl
  | cons head rest ih =>
    rw [List.mapM_cons, bind_eq_ok_iff, List.forall₂_cons_left_iff]
    constructor
    · rintro ⟨result, headRead, restReads⟩
      obtain ⟨others, restRead, ⟨⟩⟩ := bind_eq_ok_iff.1 restReads
      exact ⟨result, others, headRead, ih.1 restRead, rfl⟩
    · rintro ⟨result, others, headRead, restRead, rfl⟩
      exact ⟨result, headRead, bind_eq_ok_iff.2 ⟨others, ih.2 restRead, rfl⟩⟩

theorem mapM_eq_ok_iff_map {read : α → Except ε β} {items : List α} {results : List β} :
    items.mapM read = .ok results ↔ items.map read = results.map .ok := by
  rw [mapM_eq_ok_iff, ← List.forall₂_eq_eq_eq, List.forall₂_map_left_iff,
    List.forall₂_map_right_iff]

/-- Each item of a row that is read can be read. -/
theorem readable_of_mapM {read : α → Except ε β} {items : List α} {results : List β}
    (allRead : items.mapM read = .ok results) :
    ∀ item ∈ items, ∃ result, read item = .ok result := by
  intro item present
  have mapped : read item ∈ items.map read := List.mem_map_of_mem present
  rw [mapM_eq_ok_iff_map.1 allRead, List.mem_map] at mapped
  obtain ⟨result, _, isRead⟩ := mapped
  exact ⟨result, isRead.symm⟩

/-- Without its results, reading item by item is a row of checks. -/
theorem forM_map_unit (read : α → Except ε β) (items : List α) :
    (items.forM fun item => (read item).map fun _ => ()) = (items.mapM read).map fun _ => () := by
  induction items with
  | nil => rfl
  | cons head rest ih =>
    rw [forM_cons, ih, List.mapM_cons]
    cases read head with
    | error error => rfl
    | ok result => cases rest.mapM read <;> rfl

/-- Reading item by item fails as the first item that cannot be read. -/
theorem mapM_eq_error_iff {read : α → Except ε β} {items : List α} {error : ε} :
    items.mapM read = .error error ↔
      ∃ before item after, items = before ++ item :: after ∧
        (∀ earlier ∈ before, ∃ result, read earlier = .ok result) ∧ read item = .error error := by
  have unread : (items.forM fun item => (read item).map fun _ => ()) = .error error ↔
      items.mapM read = .error error := by
    rw [forM_map_unit, map_eq_error_iff]
  rw [← unread, forM_eq_error_iff]
  simp only [map_eq_error_iff, map_eq_ok_iff, and_true]

theorem exists_of_mapM_eq_error {read : α → Except ε β} {items : List α} {error : ε}
    (failed : items.mapM read = .error error) : ∃ item ∈ items, read item = .error error := by
  obtain ⟨before, item, after, rfl, _, itemFailed⟩ := mapM_eq_error_iff.1 failed
  exact ⟨item, by simp, itemFailed⟩

/-- Items each of which can be read are read to exactly what they stand for. -/
theorem mapM_eq_ok {read : α → Except ε β} {items : List α}
    (readable : ∀ item ∈ items, ∃ result, read item = .ok result) :
    ∃ results, items.mapM read = .ok results ∧
      ∀ result, result ∈ results ↔ ∃ item ∈ items, read item = .ok result := by
  induction items with
  | nil => exact ⟨[], rfl, by simp⟩
  | cons head rest ih =>
    obtain ⟨⟨first, headRead⟩, restReadable⟩ := List.forall_mem_cons.1 readable
    obtain ⟨others, restRead, members⟩ := ih restReadable
    refine ⟨first :: others, by rw [List.mapM_cons, headRead, ok_bind, restRead]; rfl, ?_⟩
    intro result
    rw [List.mem_cons, members, List.exists_mem_cons_iff, headRead, Except.ok.injEq, eq_comm]

/-- Where reading can fail in only one way, two rows of the same items are both read, to the same
results, or both fail in that way. -/
theorem mapM_same_members {read : α → Except ε β} (only : ε)
    (fails : ∀ item error, read item = .error error → error = only) {items others : List α}
    (same : ∀ item, item ∈ items ↔ item ∈ others) :
    (∃ results more, items.mapM read = .ok results ∧ others.mapM read = .ok more ∧
        ∀ result, result ∈ results ↔ result ∈ more) ∨
      items.mapM read = .error only ∧ others.mapM read = .error only := by
  by_cases readable : ∀ item ∈ items, ∃ result, read item = .ok result
  · obtain ⟨results, itemsRead, members⟩ := mapM_eq_ok readable
    obtain ⟨more, othersRead, moreMembers⟩ :=
      mapM_eq_ok fun item present => readable item ((same item).2 present)
    refine .inl ⟨results, more, itemsRead, othersRead, fun result => ?_⟩
    rw [members, moreMembers]
    exact exists_congr fun item => and_congr_left fun _ => same item
  · -- A row that cannot be read stops at some item, and there it can fail in only one way.
    have failing {row : List α} (unread : ¬ ∀ item ∈ row, ∃ result, read item = .ok result) :
        row.mapM read = .error only := by
      match outcome : row.mapM read with
      | .ok results => exact absurd (readable_of_mapM outcome) unread
      | .error error =>
        obtain ⟨item, _, failed⟩ := exists_of_mapM_eq_error outcome
        rw [fails item error failed]
    refine .inr ⟨failing readable, failing fun othersReadable => readable fun item present => ?_⟩
    exact othersReadable item ((same item).1 present)

/-! ## Sets collected item by item -/

theorem foldlM_congr {add other : β → α → Except ε β} {items : List α}
    (same : ∀ whole, ∀ item ∈ items, add whole item = other whole item) (start : β) :
    items.foldlM add start = items.foldlM other start := by
  induction items generalizing start with
  | nil => rfl
  | cons head rest ih =>
    rw [List.foldlM_cons, List.foldlM_cons, same start head List.mem_cons_self]
    refine congrArg _ (funext fun whole => ?_)
    exact ih (fun before item present => same before item (List.mem_cons_of_mem head present)) whole

/-- The sets found under some names, put together one after the other, are all found when each is,
and make up their union. -/
theorem collect_eq_ok {ν : Type} [Label ν] (read : α → Except ε β) (view : β → NameSet ν)
    {items : List α}
    (readable : ∀ item ∈ items, ∃ result, read item = .ok result) :
    ∃ total, items.foldlM (fun whole item => return whole ∪ view (← read item)) ∅ = .ok total ∧
      ∀ name, name ∈ total ↔
        ∃ item ∈ items, ∃ result, read item = .ok result ∧ name ∈ view result := by
  have fold (before : NameSet ν) : ∃ total,
      items.foldlM (fun whole item => return whole ∪ view (← read item)) before = .ok total ∧
      ∀ name, name ∈ total ↔ name ∈ before ∨
        ∃ item ∈ items, ∃ result, read item = .ok result ∧ name ∈ view result := by
    induction items generalizing before with
    | nil => exact ⟨before, rfl, by simp⟩
    | cons head rest ih =>
      obtain ⟨⟨first, headRead⟩, restReadable⟩ := List.forall_mem_cons.1 readable
      obtain ⟨total, folded, members⟩ := ih restReadable (before ∪ view first)
      refine ⟨total, ?_, fun name => ?_⟩
      · rw [List.foldlM_cons, headRead]
        exact folded
      · rw [members, NameSet.mem_union, List.exists_mem_cons_iff, headRead]
        simp [or_assoc]
  obtain ⟨total, folded, members⟩ := fold ∅
  exact ⟨total, folded, fun name => by simp [members]⟩

end FeatureResolution
