import FeatureResolution.Proofs.Surface
import FeatureResolution.Proofs.TextLabel

/-!
# Surfaces put together

The surface of declared flags is what each of them provides, so the surface of two sets of flags
together is made of the surfaces of both (`Registry.exposes_union`). It is refused for one more
reason than those of the parts: a conflict pair whose members come from different parts
(`Registry.clash_union`).

The order of the members of a conflict pair shows in the report of the conflict and nowhere else
(`Registry.assemble_turned`, `Registry.materialize_turned`).
-/

namespace FeatureResolution

open Label

variable {ν : Type} [Label ν]

namespace Registry

variable {registry : Registry ν} {capabilities first second : NameSet ν}

/-! ## Two sets of flags -/

/-- One member of a conflict pair is in the first set alone and the other in the second alone. -/
def Crosses (first second : NameSet ν) (pair : ν × ν) : Prop :=
  (pair.1 ∈ first ∧ pair.1 ∉ second ∧ pair.2 ∈ second ∧ pair.2 ∉ first) ∨
    (pair.2 ∈ first ∧ pair.2 ∉ second ∧ pair.1 ∈ second ∧ pair.1 ∉ first)

instance (first second : NameSet ν) (pair : ν × ν) : Decidable (Crosses first second pair) :=
  inferInstanceAs (Decidable (_ ∨ _))

theorem HasAll.union (firstDeclared : registry.HasAll first)
    (secondDeclared : registry.HasAll second) : registry.HasAll (first ∪ second) :=
  NameSet.forall_union firstDeclared secondDeclared

theorem exposes_union {item : ν} : registry.Exposes (first ∪ second) item ↔
    registry.Exposes first item ∨ registry.Exposes second item := by
  simp only [Exposes, NameSet.mem_union, or_and_right, and_or_left, exists_or]

/-- A pair that clashes in neither of two sets clashes in their union when it crosses them. -/
theorem clash_union {pair : ν × ν} (firstApart : ¬ Clash first pair)
    (secondApart : ¬ Clash second pair) :
    Clash (first ∪ second) pair ↔ Crosses first second pair := by
  simp only [Clash, Crosses, NameSet.mem_union] at *
  tauto

/-- Where the pairs that clash are told by some property, a surface is refused when a pair has it,
and for the first such pair. -/
theorem checkConflicts_refused_iff {property : ν × ν → Prop}
    (told : ∀ pair ∈ registry.conflicts, Clash capabilities pair ↔ property pair) :
    ((∃ error, registry.checkConflicts capabilities = .error error) ↔
      ∃ pair ∈ registry.conflicts, property pair) ∧
    ∀ error, registry.checkConflicts capabilities = .error error ↔
      ∃ before pair after, registry.conflicts = before ++ pair :: after ∧ property pair ∧
        (∀ earlier ∈ before, ¬ property earlier) ∧
        error = .conflict (document pair.1) (document pair.2) := by
  refine ⟨?_, fun error => ?_⟩
  · have passes : registry.checkConflicts capabilities = .ok () ↔
        ∀ pair ∈ registry.conflicts, ¬ property pair :=
      checkConflicts_eq_ok_iff.trans (forall₂_congr fun pair listed => not_congr (told pair listed))
    rw [check_eq_ok_iff] at passes
    simpa using not_congr passes
  · rw [checkConflicts_eq_error_iff]
    constructor
    · rintro ⟨before, one, other, after, whole, clash, noneBefore, rfl⟩
      rw [whole] at told
      refine ⟨before, (one, other), after, whole, (told _ (by simp)).1 clash, ?_, rfl⟩
      exact fun earlier isBefore => mt (told earlier (by simp [isBefore])).2
        (noneBefore earlier isBefore)
    · rintro ⟨before, ⟨one, other⟩, after, whole, has, noneBefore, rfl⟩
      rw [whole] at told
      refine ⟨before, one, other, after, whole, (told _ (by simp)).2 has, ?_, rfl⟩
      exact fun earlier isBefore => mt (told earlier (by simp [isBefore])).1
        (noneBefore earlier isBefore)

/-! ## Pairs turned round -/

/-- A conflict pair, with its members in either order. -/
def Turned (pair other : ν × ν) : Prop :=
  other = pair ∨ other = pair.swap

theorem Turned.clash_iff {pair other : ν × ν} (turned : Turned pair other) :
    Clash capabilities other ↔ Clash capabilities pair := by
  rcases turned with rfl | rfl
  · rfl
  · exact and_comm

/-- Two results are the same, or they report one conflict with its two names in either order. -/
def SameButOrder {β : Type} (result other : Except Error β) : Prop :=
  other = result ∨
    ∃ one two, result = .error (.conflict one two) ∧ other = .error (.conflict two one)

theorem SameButOrder.bind {β γ : Type} {result other : Except Error β}
    (alike : SameButOrder result other) (next : β → Except Error γ) :
    SameButOrder (result >>= next) (other >>= next) := by
  rcases alike with rfl | ⟨one, two, rfl, rfl⟩
  · exact .inl rfl
  · exact .inr ⟨one, two, rfl, rfl⟩

theorem checkConflicts_turned {others : List (ν × ν)}
    (turned : List.Forall₂ Turned registry.conflicts others) (capabilities : NameSet ν) :
    SameButOrder (registry.checkConflicts capabilities)
      ({ registry with conflicts := others }.checkConflicts capabilities) := by
  simp only [checkConflicts_eq_forM]
  generalize registry.conflicts = pairs at turned ⊢
  induction turned with
  | nil => exact .inl rfl
  | @cons pair other pairs others headTurned _ ih =>
    simp only [forM_cons]
    by_cases clash : Clash capabilities pair
    · rw [if_pos clash, if_pos (headTurned.clash_iff.2 clash), error_bind, error_bind]
      rcases headTurned with rfl | rfl
      · exact .inl rfl
      · exact .inr ⟨_, _, rfl, rfl⟩
    · rw [if_neg clash, if_neg (mt headTurned.clash_iff.1 clash), ok_bind, ok_bind]
      exact ih

theorem materialize_turned {others : List (ν × ν)}
    (turned : List.Forall₂ Turned registry.conflicts others) (capabilities : NameSet ν) :
    SameButOrder (registry.materialize capabilities)
      ({ registry with conflicts := others }.materialize capabilities) :=
  (checkConflicts_turned turned capabilities).bind _

/-! ## Checked tables -/

section Assembled

variable {flags : List (Flag ν)} {defaults : Except Error (NameSet ν)}
  {conflicts : Except Error (List (Except Error (ν × ν)))} {artifact : Option (Artifact ν)}

theorem checkDeclared_swap {one other : ν} (checked : checkDeclared flags [one, other] = .ok ()) :
    checkDeclared flags [other, one] = .ok () := by
  simp only [checkDeclared] at checked ⊢
  split_ifs at checked ⊢
  rfl

theorem checkPair_eq_ok {pair : Except Error (ν × ν)} {result : ν × ν}
    (checked : checkPair flags pair = .ok result) :
    checkDeclared flags [result.1, result.2] = .ok () := by
  obtain ⟨read, _, checked⟩ := bind_eq_ok_iff.1 checked
  obtain ⟨_, declared, ⟨⟩⟩ := bind_eq_ok_iff.1 checked
  exact declared

theorem checkPair_of_checkDeclared {pair : ν × ν}
    (checked : checkDeclared flags [pair.1, pair.2] = .ok ()) :
    checkPair flags (.ok pair) = .ok pair := by
  obtain ⟨one, other⟩ := pair
  rw [checkPair, ok_bind]
  dsimp only at checked ⊢
  rw [checked]
  rfl

/-- Conflict pairs that pass the check pass it turned round. -/
theorem mapM_checkPair_turned {given : List (Except Error (ν × ν))} {pairs others : List (ν × ν)}
    (checked : given.mapM (checkPair flags) = .ok pairs)
    (turned : List.Forall₂ Turned pairs others) :
    (others.map .ok).mapM (checkPair flags) = .ok others := by
  rw [mapM_eq_ok_iff] at checked ⊢
  induction turned generalizing given with
  | nil => exact .nil
  | @cons pair other pairs others headTurned _ ih =>
    cases checked with
    | cons headChecked restChecked =>
      refine .cons (checkPair_of_checkDeclared ?_) (ih restChecked)
      have declared := checkPair_eq_ok headChecked
      rcases headTurned with rfl | rfl
      · exact declared
      · exact checkDeclared_swap declared

/-- A table with conflict pairs turned round becomes the registry with those pairs turned round. -/
theorem assemble_turned (made : assemble flags defaults conflicts artifact = .ok registry)
    {others : List (ν × ν)} (turned : List.Forall₂ Turned registry.conflicts others) :
    assemble flags defaults (.ok (others.map .ok)) artifact =
      .ok { registry with conflicts := others } := by
  simp only [assemble, bind_eq_ok_iff, pure_eq_ok] at made ⊢
  obtain ⟨_, names, named, isNamed, sorted, isSorted, _, listed, _, targets, _, _, pairs, checked,
    _, acyclic, ⟨⟩⟩ := made
  exact ⟨(), names, named, isNamed, sorted, isSorted, (), listed, (), targets, _, rfl, others,
    mapM_checkPair_turned checked turned, (), acyclic, rfl⟩

end Assembled

/-- The surface of declared flags is refused for a conflict and for nothing else. That of two sets
of flags together is made of the surfaces of both; where both have one, theirs is refused exactly
when some conflict pair has one member in the first set alone and the other in the second alone, and
then for the first such pair. Whether a surface is refused does not depend on the order of the two
members of a conflict pair, but only how the conflict is told. -/
theorem materialize_union (flags : List (Flag ν)) (defaults : Except Error (NameSet ν))
    (conflicts : Except Error (List (Except Error (ν × ν)))) (artifact : Option (Artifact ν))
    (registry : Registry ν) (made : assemble flags defaults conflicts artifact = .ok registry) :
    (∀ capabilities, registry.HasAll capabilities → ∀ error,
      registry.materialize capabilities = .error error →
        ∃ pair ∈ registry.conflicts, Clash capabilities pair ∧
          error = .conflict (document pair.1) (document pair.2)) ∧
      (∀ first second, registry.HasAll first → registry.HasAll second →
        (∀ items, registry.materialize (first ∪ second) = .ok items →
          ∃ firstItems secondItems, registry.materialize first = .ok firstItems ∧
            registry.materialize second = .ok secondItems ∧
            ∀ item, item ∈ items ↔ item ∈ firstItems ∨ item ∈ secondItems) ∧
        ∀ firstItems secondItems, registry.materialize first = .ok firstItems →
          registry.materialize second = .ok secondItems →
            ((∃ error, registry.materialize (first ∪ second) = .error error) ↔
              ∃ pair ∈ registry.conflicts, Crosses first second pair) ∧
            ∀ error, registry.materialize (first ∪ second) = .error error ↔
              ∃ before pair after, registry.conflicts = before ++ pair :: after ∧
                Crosses first second pair ∧ (∀ earlier ∈ before, ¬ Crosses first second earlier) ∧
                error = .conflict (document pair.1) (document pair.2)) ∧
      ∀ others, List.Forall₂ Turned registry.conflicts others →
        assemble flags defaults (.ok (others.map .ok)) artifact =
            .ok { registry with conflicts := others } ∧
          ∀ capabilities, SameButOrder (registry.materialize capabilities)
            ({ registry with conflicts := others }.materialize capabilities) := by
  have indexed := indexed_of_assemble made
  refine ⟨fun capabilities declared error refused => ?_,
    fun first second firstDeclared secondDeclared => ?_, fun others turned => ?_⟩
  · rw [materialize_eq_error_iff indexed declared, checkConflicts_eq_error_iff] at refused
    obtain ⟨before, one, other, after, whole, clash, _, rfl⟩ := refused
    exact ⟨(one, other), by simp [whole], clash, rfl⟩
  · have bothDeclared := firstDeclared.union secondDeclared
    refine ⟨fun items surface => ?_, fun firstItems secondItems firstSurface secondSurface => ?_⟩
    · have apart := apart_of_materialize surface
      obtain ⟨firstItems, firstSurface, firstMembers⟩ := materialize_of_apart indexed
        firstDeclared
        fun pair listed clash => apart pair listed (clash.mono fun _ => NameSet.mem_union.2 ∘ .inl)
      obtain ⟨secondItems, secondSurface, secondMembers⟩ := materialize_of_apart indexed
        secondDeclared
        fun pair listed clash => apart pair listed (clash.mono fun _ => NameSet.mem_union.2 ∘ .inr)
      refine ⟨firstItems, secondItems, firstSurface, secondSurface, fun item => ?_⟩
      rw [mem_of_materialize indexed bothDeclared surface, firstMembers, secondMembers,
        exposes_union]
    · have firstApart := apart_of_materialize firstSurface
      have secondApart := apart_of_materialize secondSurface
      simp only [materialize_eq_error_iff indexed bothDeclared]
      exact checkConflicts_refused_iff fun pair listed =>
        clash_union (firstApart pair listed) (secondApart pair listed)
  · exact ⟨assemble_turned made turned, materialize_turned turned⟩

/-- Flags that exclude each other have a surface each and none together, whichever of the two is
named first in the conflict. -/
theorem materialize_union_tiny_std :
    smallRegistry.materialize (.ofList ["tiny"]) = .ok ∅ ∧
      smallRegistry.materialize (.ofList ["std", "derive"]) =
        .ok (.ofList ["Vec", "String", "Derive"]) ∧
      smallRegistry.materialize (.ofList ["tiny"] ∪ .ofList ["std", "derive"]) =
        .error (.conflict (.text "tiny") (.text "std")) ∧
      ∃ error, ({ smallRegistry with conflicts := [("std", "tiny")] } : Registry String).materialize
        (.ofList ["tiny"] ∪ .ofList ["std", "derive"]) = .error error := by
  have made : assemble smallRegistry.flags (.ok ∅) (.ok [.ok ("tiny", "std")]) none =
      .ok smallRegistry := by decide
  have tinySurface : smallRegistry.materialize (.ofList ["tiny"]) = .ok ∅ := by decide
  have stdSurface : smallRegistry.materialize (.ofList ["std", "derive"]) =
      .ok (.ofList ["Vec", "String", "Derive"]) := by decide
  obtain ⟨_, together, turnedRound⟩ := materialize_union _ _ _ _ _ made
  obtain ⟨_, clash⟩ := (together (.ofList ["tiny"]) (.ofList ["std", "derive"]) (by decide)
    (by decide)).2 ∅ _ tinySurface stdSurface
  have refused := (clash _).2 ⟨[], ("tiny", "std"), [], rfl, by decide, nofun, rfl⟩
  refine ⟨tinySurface, stdSurface, refused, ?_⟩
  obtain ⟨_, reported⟩ := turnedRound [("std", "tiny")] (.cons (.inr rfl) .nil)
  rcases reported (.ofList ["tiny"] ∪ .ofList ["std", "derive"]) with alike | ⟨_, _, _, refusedToo⟩
  · exact ⟨_, alike.trans refused⟩
  · exact ⟨_, refusedToo⟩

end Registry

end FeatureResolution
