import FeatureResolution.Proofs.Closure
import FeatureResolution.Proofs.FlagLookup
import FeatureResolution.Surface

/-!
# What a build exposes

The surface of enabled flags is refused for the first conflict pair that is enabled as a whole
(`checkConflicts_eq_error_iff`, `materialize_eq_error_iff`); otherwise it holds exactly the items
that some enabled flag provides (`materialize_of_apart`, `materialize_eq_ok_iff`).
-/

namespace FeatureResolution.Registry

variable {ν : Type} [Label ν]

/-- Both members of a conflict pair are enabled. -/
def Clash (capabilities : NameSet ν) (pair : ν × ν) : Prop :=
  pair.1 ∈ capabilities ∧ pair.2 ∈ capabilities

instance (capabilities : NameSet ν) (pair : ν × ν) : Decidable (Clash capabilities pair) :=
  inferInstanceAs (Decidable (_ ∧ _))

theorem Clash.mono {small large : NameSet ν} (subset : small ⊆ large) {pair : ν × ν}
    (clash : Clash small pair) : Clash large pair :=
  clash.imp (subset pair.1) (subset pair.2)

/-- Some enabled flag provides an item. -/
def Exposes (registry : Registry ν) (capabilities : NameSet ν) (item : ν) : Prop :=
  ∃ flag ∈ registry.flags, flag.name ∈ capabilities ∧ item ∈ flag.provides

/-! ## Conflicts -/

section Conflicts

variable {registry : Registry ν} {capabilities : NameSet ν}

theorem checkConflicts_eq_forM (registry : Registry ν) (capabilities : NameSet ν) :
    registry.checkConflicts capabilities = registry.conflicts.forM fun pair =>
      if Clash capabilities pair then
        .error (.conflict (Label.document pair.1) (Label.document pair.2))
      else .ok () :=
  rfl

theorem checkConflicts_eq_ok_iff :
    registry.checkConflicts capabilities = .ok () ↔
      ∀ pair ∈ registry.conflicts, ¬ Clash capabilities pair := by
  rw [checkConflicts_eq_forM, forM_eq_ok_iff]
  refine forall₂_congr fun pair _ => ?_
  by_cases clash : Clash capabilities pair
  · simp [clash]
  · simp [clash]

/-- A conflict is reported for the first pair that is enabled, as it was declared. -/
theorem checkConflicts_eq_error_iff {error : Error} :
    registry.checkConflicts capabilities = .error error ↔
      ∃ before first second after, registry.conflicts = before ++ (first, second) :: after ∧
        Clash capabilities (first, second) ∧ (∀ pair ∈ before, ¬ Clash capabilities pair) ∧
        error = .conflict (Label.document first) (Label.document second) := by
  rw [checkConflicts_eq_forM, forM_eq_error_iff]
  constructor
  · rintro ⟨before, ⟨first, second⟩, after, whole, earlierPass, failed⟩
    refine ⟨before, first, second, after, whole, ?_⟩
    by_cases clash : Clash capabilities (first, second)
    · rw [if_pos clash] at failed
      cases failed
      refine ⟨clash, fun pair inBefore earlierClash => ?_, rfl⟩
      have passed := earlierPass pair inBefore
      rw [if_pos earlierClash] at passed
      cases passed
    · rw [if_neg clash] at failed
      cases failed
  · rintro ⟨before, first, second, after, whole, clash, noneBefore, rfl⟩
    exact ⟨before, (first, second), after, whole,
      fun pair inBefore => if_neg (noneBefore pair inBefore), if_pos clash⟩

end Conflicts

/-! ## Items -/

section Items

variable {registry : Registry ν} {capabilities : NameSet ν}

/-- The items of declared flags that do not exclude each other can be collected. -/
theorem collect_provides (indexed : registry.Indexed) (declared : registry.HasAll capabilities) :
    ∃ items, capabilities.toList.foldlM
        (fun items name => return items ∪ (← registry.get name).provides) ∅ = .ok items ∧
      ∀ item, item ∈ items ↔ registry.Exposes capabilities item := by
  have found (name : ν) (present : name ∈ capabilities.toList) :=
    indexed.get_of_contains (declared name present)
  obtain ⟨items, collected, members⟩ := collect_eq_ok registry.get (·.provides) found
  refine ⟨items, collected, fun item => (members item).trans ?_⟩
  constructor
  · rintro ⟨name, present, flag, isFlag, provided⟩
    refine ⟨flag, mem_of_get isFlag, NameSet.mem_iff.2 ⟨name, present, ?_⟩, provided⟩
    rw [Label.same_comm]
    exact same_of_get isFlag
  · rintro ⟨flag, inTable, enabled, provided⟩
    obtain ⟨name, present, alike⟩ := NameSet.mem_iff.1 enabled
    rw [Label.same_comm] at alike
    have keyed := Label.isKey_of_same (indexed.keys flag inTable) alike
    exact ⟨name, present, flag, get_of_same indexed.distinct inTable keyed alike, provided⟩

/-- The surface of declared flags fails only as the check of their conflicts does. -/
theorem materialize_eq_error_iff (indexed : registry.Indexed)
    (declared : registry.HasAll capabilities) {error : Error} :
    registry.materialize capabilities = .error error ↔
      registry.checkConflicts capabilities = .error error := by
  obtain ⟨items, collected, _⟩ := collect_provides indexed declared
  unfold materialize
  rw [bind_eq_error_iff, collected]
  simp

/-- The surface of declared flags that do not exclude each other is what they provide. -/
theorem materialize_of_apart (indexed : registry.Indexed) (declared : registry.HasAll capabilities)
    (apart : ∀ pair ∈ registry.conflicts, ¬ Clash capabilities pair) :
    ∃ items, registry.materialize capabilities = .ok items ∧
      ∀ item, item ∈ items ↔ registry.Exposes capabilities item := by
  obtain ⟨items, collected, members⟩ := collect_provides indexed declared
  refine ⟨items, ?_, members⟩
  unfold materialize
  rw [checkConflicts_eq_ok_iff.2 apart, ok_bind, collected]

theorem apart_of_materialize {items : NameSet ν}
    (made : registry.materialize capabilities = .ok items) :
    ∀ pair ∈ registry.conflicts, ¬ Clash capabilities pair := by
  obtain ⟨_, passed, _⟩ := bind_eq_ok_iff.1 made
  exact checkConflicts_eq_ok_iff.1 passed

theorem mem_of_materialize (indexed : registry.Indexed) (declared : registry.HasAll capabilities)
    {items : NameSet ν} (made : registry.materialize capabilities = .ok items) {item : ν} :
    item ∈ items ↔ registry.Exposes capabilities item := by
  obtain ⟨all, isAll, members⟩ := materialize_of_apart indexed declared (apart_of_materialize made)
  cases isAll.symm.trans made
  exact members item

end Items

/-- A surface of texts is told by its items. -/
theorem materialize_eq_ok_iff {registry : Registry String} {capabilities : NameSet String}
    (indexed : registry.Indexed) (declared : registry.HasAll capabilities)
    {items : NameSet String} : registry.materialize capabilities = .ok items ↔
      (∀ pair ∈ registry.conflicts, ¬ Clash capabilities pair) ∧
        ∀ item, item ∈ items ↔ registry.Exposes capabilities item := by
  constructor
  · exact fun made => ⟨apart_of_materialize made, fun _ => mem_of_materialize indexed declared made⟩
  · rintro ⟨apart, provided⟩
    obtain ⟨all, isAll, members⟩ := materialize_of_apart indexed declared apart
    rw [isAll, NameSet.ext fun item => (members item).trans (provided item).symm]

end FeatureResolution.Registry
