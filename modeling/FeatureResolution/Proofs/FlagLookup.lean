import FeatureResolution.Proofs.Checks
import FeatureResolution.Registry
import Mathlib.Data.List.Pairwise

/-!
# Flags under their names

In a table that has been checked no two flags have names that are the same, and every name is one
that can be looked up (`Registry.indexed_of_assemble`). So a flag is found under its own name and
under all names that are the same, and under no other (`Registry.get_of_same`,
`Registry.same_of_get`).
-/

namespace FeatureResolution

open Label

variable {ν : Type} [Label ν]

/-! ## Names -/

theorem Scalar.group_ne_ten (value : Scalar) : value.rank.group ≠ 10 := by
  cases value with
  | decimal number =>
    rw [rank, decimalRank.eq_def]
    split <;> exact Nat.ne_of_beq_eq_false rfl
  | timestamp moment =>
    rw [rank, timestampRank]
    split <;> exact Nat.ne_of_beq_eq_false rfl
  | _ => exact Nat.ne_of_beq_eq_false rfl

/-- What denotes the same as something that can be looked up can be looked up. -/
theorem Label.isKey_of_same {label other : ν} (keyed : isKey label = true)
    (alike : same label other = true) : isKey other = true := by
  rw [same, decide_eq_true_eq] at alike
  have groups : (document label).rank.group = (document other).rank.group :=
    congrArg Rank.group alike
  unfold isKey Document.isScalar at keyed ⊢
  cases isLabel : document label with
  | scalar value =>
    cases isOther : document other with
    | scalar _ => rfl
    | _ =>
      rw [isLabel, isOther] at groups
      exact absurd groups value.group_ne_ten
  | _ =>
    rw [isLabel] at keyed
    cases keyed

namespace Registry

variable {registry : Registry ν} {capabilities : NameSet ν}

/-- No two flags have names that are the same. -/
def Distinct (flags : List (Flag ν)) : Prop :=
  flags.Pairwise fun first second => same first.name second.name = false

theorem Distinct.eq_of_same {flags : List (Flag ν)} (distinct : Distinct flags)
    {first second : Flag ν} (firstPresent : first ∈ flags) (secondPresent : second ∈ flags)
    (alike : same first.name second.name = true) : first = second := by
  by_contra differ
  have symmetric : Std.Symm fun first second : Flag ν => same first.name second.name = false :=
    ⟨fun first second apart => (same_comm second.name first.name).trans apart⟩
  have apart := distinct.forall firstPresent secondPresent differ
  rw [apart] at alike
  cases alike

/-- Every flag of a registry can be looked up, and under no name of another flag. -/
structure Indexed (registry : Registry ν) : Prop where
  distinct : Distinct registry.flags
  keys : ∀ flag ∈ registry.flags, isKey flag.name = true

/-! ## Looking flags up -/

theorem mem_of_get {name : ν} {flag : Flag ν} (lookedUp : registry.get name = .ok flag) :
    flag ∈ registry.flags := by
  unfold get at lookedUp
  split at lookedUp
  · split at lookedUp
    · next isFound =>
      cases lookedUp
      exact List.mem_of_find?_eq_some isFound
    · cases lookedUp
  · cases lookedUp

theorem same_of_get {name : ν} {flag : Flag ν} (lookedUp : registry.get name = .ok flag) :
    same flag.name name = true := by
  unfold get at lookedUp
  split at lookedUp
  · split at lookedUp
    · next isFound =>
      cases lookedUp
      unfold Flag.find? at isFound
      have alike := List.find?_some isFound
      exact alike
    · cases lookedUp
  · cases lookedUp

/-- A flag is found under any name that is the same as its own. -/
theorem get_of_same (distinct : Distinct registry.flags) {flag : Flag ν}
    (present : flag ∈ registry.flags) {name : ν} (isKey : isKey name = true)
    (alike : same flag.name name = true) : registry.get name = .ok flag := by
  have declared : (Flag.find? name registry.flags).isSome = true :=
    List.find?_isSome.2 ⟨flag, present, alike⟩
  obtain ⟨found, isFound⟩ := Option.isSome_iff_exists.1 declared
  have isSame : found = flag := by
    unfold Flag.find? at isFound
    have foundAlike := List.find?_some isFound
    refine distinct.eq_of_same (List.mem_of_find?_eq_some isFound) present ?_
    exact same_trans foundAlike (by rwa [same_comm])
  rw [get, if_pos isKey, isFound, isSame]

/-- A name is declared when some flag has one that is the same. -/
theorem contains_eq_true_iff {name : ν} :
    registry.contains name = true ↔ ∃ flag ∈ registry.flags, same flag.name name = true :=
  List.find?_isSome

theorem contains_name {flag : Flag ν} (present : flag ∈ registry.flags) :
    registry.contains flag.name = true :=
  contains_eq_true_iff.2 ⟨flag, present, same_refl flag.name⟩

theorem Indexed.get_of_contains (indexed : registry.Indexed) {name : ν}
    (declared : registry.contains name = true) : ∃ flag, registry.get name = .ok flag := by
  obtain ⟨flag, present, alike⟩ := contains_eq_true_iff.1 declared
  have keyed := isKey_of_same (indexed.keys flag present) alike
  exact ⟨flag, get_of_same indexed.distinct present keyed alike⟩

/-- Every name in a set is declared. -/
def HasAll (registry : Registry ν) (capabilities : NameSet ν) : Prop :=
  ∀ name ∈ capabilities.toList, registry.contains name = true

instance (registry : Registry ν) (capabilities : NameSet ν) :
    Decidable (registry.HasAll capabilities) :=
  inferInstanceAs (Decidable (∀ name ∈ capabilities.toList, _))

/-! ## Checked tables -/

theorem distinct_of_checkNames {seen : List ν} {flags : List (Flag ν)}
    (checked : checkNames seen flags = .ok ()) :
    Distinct flags ∧ ∀ flag ∈ flags, ∀ name ∈ seen, same flag.name name = false := by
  -- The names seen grow with each flag, so both facts go through the induction together.
  induction flags generalizing seen with
  | nil => exact ⟨.nil, List.forall_mem_nil _⟩
  | cons head rest ih =>
    unfold checkNames at checked
    split at checked
    · cases checked
    · split at checked
      · cases checked
      · split at checked
        · cases checked
        · next unseen =>
          obtain ⟨restDistinct, restUnseen⟩ := ih checked
          simp only [List.any_eq_true, not_exists, not_and, Bool.not_eq_true] at unseen
          refine ⟨List.pairwise_cons.2 ⟨fun flag present => ?_, restDistinct⟩, ?_⟩
          · rw [same_comm]
            exact restUnseen flag present head.name List.mem_cons_self
          · refine List.forall_mem_cons.2 ⟨unseen, fun flag present name isSeen => ?_⟩
            exact restUnseen flag present name (List.mem_cons_of_mem head.name isSeen)

theorem isKey_of_checkNames {seen : List ν} {flags : List (Flag ν)}
    (checked : checkNames seen flags = .ok ()) : ∀ flag ∈ flags, isKey flag.name = true := by
  induction flags generalizing seen with
  | nil => exact List.forall_mem_nil _
  | cons head rest ih =>
    unfold checkNames at checked
    split at checked
    · cases checked
    · split at checked
      · cases checked
      · next keyed =>
        split at checked
        · cases checked
        · exact List.forall_mem_cons.2 ⟨by simpa using keyed, ih checked⟩

theorem indexed_of_assemble {flags : List (Flag ν)} {defaults : Except Error (NameSet ν)}
    {conflicts : Except Error (List (Except Error (ν × ν)))} {artifact : Option (Artifact ν)}
    (made : assemble flags defaults conflicts artifact = .ok registry) : registry.Indexed := by
  simp only [assemble, bind_eq_ok_iff, pure_eq_ok] at made
  obtain ⟨_, namesChecked, named, _, _, _, _, _, _, _, _, _, _, _, _, _, ⟨⟩⟩ := made
  have marked (flag : Flag ν) :
      (if flag.name ∈ named then { flag with isDefault := true } else flag).name = flag.name := by
    split <;> rfl
  constructor
  · rw [Distinct, markDefaults, List.pairwise_map]
    simp only [marked]
    exact (distinct_of_checkNames namesChecked).1
  · rw [markDefaults, List.forall_mem_map]
    simp only [marked]
    exact isKey_of_checkNames namesChecked

/-! ## Texts as names -/

theorem indexed_of_nodup {registry : Registry String} (distinct : registry.names.Nodup) :
    registry.Indexed where
  distinct := (List.pairwise_map.1 distinct).imp fun differ => by simpa using differ
  keys flag _ := isKey_text flag.name

theorem hasAll_iff {registry : Registry String} {capabilities : NameSet String} :
    registry.HasAll capabilities ↔ ∀ name ∈ capabilities, name ∈ registry.names := by
  simp only [HasAll, NameSet.mem_toList, contains, Flag.isDeclared_iff, names]

end Registry

end FeatureResolution
