import FeatureResolution.Proofs.CargoArguments
import FeatureResolution.Proofs.Monotone

/-!
# Resolving is a closure operator

What a request starts from depends on its names one by one: the starts of two requests taken
together are those of the first and those of the second (`starts_union`), and a walk keeps such a
union apart (`reached_or`). So a resolution distributes over the union of requests.

A resolution holds whatever its flags lead to, the default set included if it was wanted. So to
ask for it again starts from nothing new (`enables_enabled`).

Result: resolving is extensive, idempotent and distributes over union, and the switch for the
default set says no more than the reserved name or the default flags themselves.
-/

namespace FeatureResolution.Registry

open Relation

variable {registry : Registry String}

/-! ## Starts -/

/-- Only what requests start from counts: two requests without unknown names that start from the
same flags are resolved alike. -/
theorem resolve_eq_of_starts (wellFormed : registry.WellFormed) {requested other : NameSet String}
    {defaultFeatures otherDefaults : Bool} (known : ∀ name ∈ requested, ¬ registry.Unknown name)
    (otherKnown : ∀ name ∈ other, ¬ registry.Unknown name)
    (alike : ∀ name, registry.Starts requested defaultFeatures name ↔
      registry.Starts other otherDefaults name) :
    registry.resolve requested defaultFeatures = registry.resolve other otherDefaults := by
  obtain ⟨enabled, resolved, members, _⟩ := resolve_eq_ok wellFormed defaultFeatures known
  rw [resolved, eq_comm]
  refine (resolve_eq_ok_iff wellFormed).2 ⟨otherKnown, fun name => (members name).trans ?_⟩
  simp only [Enables, Reached, alike]

theorem starts_union {first second : NameSet String} {defaultFeatures : Bool} {name : String} :
    registry.Starts (first ∪ second) defaultFeatures name ↔
      registry.Starts first defaultFeatures name ∨ registry.Starts second defaultFeatures name := by
  simp only [Starts, NameSet.mem_union]
  tauto

/-- The switch for the default set adds the flags of the default set to the starts. -/
theorem starts_true {requested : NameSet String} {name : String} :
    registry.Starts requested true name ↔
      (name ∈ requested ∧ name ≠ defaultSetName) ∨ name ∈ registry.defaultSet := by
  simp [Starts]

theorem not_mem_defaultSet (wellFormed : registry.WellFormed) :
    defaultSetName ∉ registry.defaultSet :=
  fun inDefaultSet => wellFormed.coherent.unreserved (mem_names_of_mem_defaultSet inDefaultSet)

/-- The reserved name stands for the switch. -/
theorem starts_reservedName {requested : NameSet String} {name : String} :
    registry.Starts (requested ∪ .ofList [defaultSetName]) false name ↔
      registry.Starts requested true name := by
  rw [starts_true]
  simp only [Starts, NameSet.mem_union, NameSet.mem_ofList, List.mem_singleton]
  tauto

/-- The default flags stand for the switch. -/
theorem starts_defaultSet (wellFormed : registry.WellFormed) {requested : NameSet String}
    {name : String} :
    registry.Starts (requested ∪ registry.defaultSet) false name ↔
      registry.Starts requested true name := by
  have notReserved : name ∈ registry.defaultSet → name ≠ defaultSetName := by
    rintro inDefaultSet rfl
    exact not_mem_defaultSet wellFormed inDefaultSet
  rw [starts_true]
  simp only [Starts, NameSet.mem_union]
  tauto

/-! ## Walks -/

theorem reached_or {first second : String → Prop} {name : String} :
    registry.Reached (fun source => first source ∨ second source) name ↔
      registry.Reached first name ∨ registry.Reached second name := by
  constructor
  · rintro ⟨source, started | started, path⟩
    · exact .inl ⟨source, started, path⟩
    · exact .inr ⟨source, started, path⟩
  · rintro (reached | reached)
    · exact reached.mono fun _ => .inl
    · exact reached.mono fun _ => .inr

/-- What is reached from reached flags is reached. -/
theorem reached_reached {start : String → Prop} {name : String} :
    registry.Reached (registry.Reached start) name ↔ registry.Reached start name := by
  constructor
  · rintro ⟨source, reached, path⟩
    exact reached.trans path
  · exact fun reached => ⟨name, reached, .refl⟩

theorem enables_union {first second : NameSet String} {defaultFeatures : Bool} {name : String} :
    registry.Enables (first ∪ second) defaultFeatures name ↔
      registry.Enables first defaultFeatures name ∨
        registry.Enables second defaultFeatures name := by
  unfold Enables
  rw [← reached_or]
  simp only [Reached, starts_union]

/-- To ask for a whole resolution, with the default set only if it was wanted before, starts from
nothing that is not enabled and enables nothing more. -/
theorem enables_enabled (wellFormed : registry.WellFormed) {requested enabled : NameSet String}
    {defaultFeatures again : Bool} (known : ∀ name ∈ requested, ¬ registry.Unknown name)
    (members : ∀ name, name ∈ enabled ↔ registry.Enables requested defaultFeatures name)
    (wanted : again = true → defaultFeatures = true) (name : String) :
    name ∈ enabled ↔ registry.Enables enabled again name := by
  have notReserved : defaultSetName ∉ enabled := fun present =>
    not_enables_defaultSetName wellFormed known ((members _).1 present)
  have starts : registry.Starts enabled again = registry.Enables requested defaultFeatures := by
    refine funext fun source => propext ?_
    constructor
    · rintro (⟨present, _⟩ | ⟨isOn | named, inDefaultSet⟩)
      · exact (members source).1 present
      · exact ⟨source, .inr ⟨.inl (wanted isOn), inDefaultSet⟩, .refl⟩
      · exact absurd named notReserved
    · intro enables
      have present := (members source).2 enables
      exact .inl ⟨present, fun reserved => notReserved (reserved ▸ present)⟩
  rw [members, Enables, Enables, starts, Enables, reached_reached]

/-! ## Result -/

/-- Resolving is a closure operator on sets of declared flags, with or without the reserved name. It
distributes over union, contains what was asked for and is idempotent, whether the default set is
asked for again or not; the switch for the default set, the reserved name and the default flags
themselves have the same effect. -/
theorem resolve_closureOperator (registry : Registry String) (constructed : registry.Constructed)
    (first second : NameSet String) (defaultFeatures : Bool)
    (firstKnown : ∀ name ∈ first, name ∈ registry.names ∨ name = defaultSetName)
    (secondKnown : ∀ name ∈ second, name ∈ registry.names ∨ name = defaultSetName) :
    ∃ enabled other both all,
      registry.resolve first defaultFeatures = .ok enabled ∧
      registry.resolve second defaultFeatures = .ok other ∧
      registry.resolve (first ∪ second) defaultFeatures = .ok both ∧
      both = enabled ∪ other ∧ enabled ⊆ both ∧
      first.erase defaultSetName ⊆ enabled ∧
      registry.resolve enabled defaultFeatures = .ok enabled ∧
      registry.resolve enabled false = .ok enabled ∧
      registry.resolve first true = .ok all ∧
      registry.resolve (first ∪ .ofList [defaultSetName]) false = .ok all ∧
      registry.resolve (first ∪ registry.defaultSet) false = .ok all := by
  have wellFormed := constructed.wellFormed
  have known {names : NameSet String}
      (declared : ∀ name ∈ names, name ∈ registry.names ∨ name = defaultSetName) :
      ∀ name ∈ names, ¬ registry.Unknown name := fun name present unknown =>
    (declared name present).elim unknown.2 unknown.1
  have unionKnown {names : NameSet String}
      (declared : ∀ name ∈ names, name ∈ registry.names ∨ name = defaultSetName) :
      ∀ name ∈ first ∪ names, ¬ registry.Unknown name :=
    known fun name present => (NameSet.mem_union.1 present).elim (firstKnown name) (declared name)
  have reservedKnown : ∀ name ∈ first ∪ NameSet.ofList [defaultSetName],
      ¬ registry.Unknown name :=
    unionKnown (by simp)
  have defaultsKnown : ∀ name ∈ first ∪ registry.defaultSet, ¬ registry.Unknown name :=
    unionKnown fun name inDefaultSet => .inl (mem_names_of_mem_defaultSet inDefaultSet)
  obtain ⟨enabled, resolved, members, _⟩ :=
    resolve_eq_ok wellFormed defaultFeatures (known firstKnown)
  obtain ⟨other, otherResolved, otherMembers, _⟩ :=
    resolve_eq_ok wellFormed defaultFeatures (known secondKnown)
  obtain ⟨all, allResolved, _⟩ := resolve_eq_ok wellFormed true (known firstKnown)
  have enabledKnown : ∀ name ∈ enabled, ¬ registry.Unknown name := fun name present unknown =>
    unknown.2 (resolve_declared wellFormed resolved name present)
  refine ⟨enabled, other, enabled ∪ other, all, resolved, otherResolved, ?union, rfl, ?monotone,
    ?extensive, ?idempotent, ?idempotentAlone, allResolved, ?reserved, ?defaults⟩
  case union =>
    refine (resolve_eq_ok_iff wellFormed).2 ⟨unionKnown secondKnown, fun name => ?_⟩
    rw [NameSet.mem_union, members, otherMembers, enables_union]
  case monotone => exact fun name present => NameSet.mem_union.2 (.inl present)
  case extensive =>
    intro name present
    exact (members name).2 ⟨name, .inl (NameSet.mem_erase.1 present), .refl⟩
  case idempotent =>
    exact (resolve_eq_ok_iff wellFormed).2
      ⟨enabledKnown, enables_enabled wellFormed (known firstKnown) members id⟩
  case idempotentAlone =>
    exact (resolve_eq_ok_iff wellFormed).2
      ⟨enabledKnown, enables_enabled wellFormed (known firstKnown) members (nomatch ·)⟩
  case reserved =>
    rw [resolve_eq_of_starts wellFormed reservedKnown (known firstKnown)
      fun _ => starts_reservedName, allResolved]
  case defaults =>
    rw [resolve_eq_of_starts wellFormed defaultsKnown (known firstKnown) fun _ =>
      starts_defaultSet wellFormed, allResolved]

theorem resolve_closureOperator_smallRegistry :
    smallRegistry.Constructed ∧
      (∀ name ∈ NameSet.ofList ["rc", "default"],
        name ∈ smallRegistry.names ∨ name = defaultSetName) ∧
      (∀ name ∈ NameSet.ofList ["derive"], name ∈ smallRegistry.names ∨ name = defaultSetName) ∧
      ∃ enabled other both all,
        smallRegistry.resolve (.ofList ["rc", "default"]) false = .ok enabled ∧
        smallRegistry.resolve (.ofList ["derive"]) false = .ok other ∧
        smallRegistry.resolve (.ofList ["rc", "default"] ∪ .ofList ["derive"]) false = .ok both ∧
        both = enabled ∪ other ∧ enabled ⊆ both ∧
        smallRegistry.resolve enabled false = .ok enabled ∧
        smallRegistry.resolve (.ofList ["rc", "default"]) true = .ok all := by
  have firstKnown : ∀ name ∈ NameSet.ofList ["rc", "default"],
      name ∈ smallRegistry.names ∨ name = defaultSetName := by
    simp [names, smallRegistry, defaultSetName]
  have secondKnown : ∀ name ∈ NameSet.ofList ["derive"],
      name ∈ smallRegistry.names ∨ name = defaultSetName := by
    simp [names, smallRegistry]
  obtain ⟨enabled, other, both, all, resolved, otherResolved, bothResolved, union, monotone, _,
      again, _, allResolved, _⟩ :=
    resolve_closureOperator smallRegistry constructed_smallRegistry (.ofList ["rc", "default"])
      (.ofList ["derive"]) false firstKnown secondKnown
  exact ⟨constructed_smallRegistry, firstKnown, secondKnown, enabled, other, both, all, resolved,
    otherResolved, bothResolved, union, monotone, again, allResolved⟩

end FeatureResolution.Registry
