import FeatureResolution.Proofs.Build

/-!
# Asking for less

One request lies within another when it names no flag that the other does not name, takes the
default set only if the other does, and is made with the same artifacts in the same mode
(`Request.Within`). What it starts from and so what it enables is then part of what the other starts
from and enables (`Enabled.mono`), while every stage that can refuse a request refuses more the more
is enabled (`Known.anti`, `validate_anti`, `materialize_anti`).

Result: a request within one that is built is built too, with no flag and no item more.
-/

namespace FeatureResolution

/-- One request asks for no more than another. -/
structure Request.Within (small large : Request String) : Prop where
  features : small.features ⊆ large.features
  defaults : small.defaultFeatures.truthy = true → large.defaultFeatures.truthy = true
  artifacts : small.artifacts = large.artifacts
  mode : small.mode = large.mode

namespace Registry

variable {registry : Registry String}

/-! ## What is enabled grows -/

theorem Reached.mono {start more : String → Prop} (grows : ∀ name, start name → more name)
    {name : String} (reached : registry.Reached start name) : registry.Reached more name := by
  obtain ⟨source, started, path⟩ := reached
  exact ⟨source, grows source started, path⟩

theorem Starts.mono {small large : NameSet String} {few many : Bool} (subset : small ⊆ large)
    (defaults : few = true → many = true) {name : String}
    (starts : registry.Starts small few name) : registry.Starts large many name := by
  rcases starts with ⟨present, notReserved⟩ | ⟨wanted, inDefaultSet⟩
  · exact .inl ⟨subset name present, notReserved⟩
  · exact .inr ⟨wanted.imp defaults (subset defaultSetName), inDefaultSet⟩

theorem Enabled.mono {small large : Request String} (within : small.Within large) {name : String}
    (enabled : registry.Enabled small name) : registry.Enabled large name :=
  Reached.mono (fun _ => Starts.mono within.features within.defaults) enabled

theorem Exposes.mono {small large : NameSet String} (subset : small ⊆ large) {item : String}
    (exposed : registry.Exposes small item) : registry.Exposes large item := by
  obtain ⟨flag, inTable, enabled, provided⟩ := exposed
  exact ⟨flag, inTable, subset flag.name enabled, provided⟩

/-! ## What is refused grows -/

theorem Known.anti {small large : Request String} (within : small.Within large)
    (known : registry.Known large) : registry.Known small :=
  fun name present => known name (within.features name present)

/-- Whatever the contracts are, versions that keep those of some flags keep those of fewer. -/
theorem validate_anti {small large : NameSet String} (subset : small ⊆ large)
    {declared : String → Except Error (Option String)} {mode : BuildMode}
    (valid : registry.validate large declared mode = .ok ()) :
    registry.validate small declared mode = .ok () := by
  rw [validate, NameSet.sorted_text, ok_bind, forM_eq_ok_iff] at valid ⊢
  intro name present
  exact valid name (NameSet.mem_toList.2 (subset name (NameSet.mem_toList.1 present)))

/-- The surface of fewer flags is made when that of more is, and holds no item more. -/
theorem materialize_anti (wellFormed : registry.WellFormed) {small large : NameSet String}
    (subset : small ⊆ large) (declared : ∀ name ∈ large, name ∈ registry.names)
    {items : NameSet String} (made : registry.materialize large = .ok items) :
    ∃ fewer, registry.materialize small = .ok fewer ∧ fewer ⊆ items := by
  have indexed := indexed_of_nodup wellFormed.coherent.distinct
  have fewDeclared : registry.HasAll small :=
    hasAll_iff.2 fun name present => declared name (subset name present)
  obtain ⟨noClash, exposed⟩ := (materialize_eq_ok_iff indexed (hasAll_iff.2 declared)).1 made
  obtain ⟨fewer, fewMade, fewExposed⟩ := materialize_of_apart indexed fewDeclared
    fun pair inTable clash => noClash pair inTable (clash.mono subset)
  refine ⟨fewer, fewMade, fun item present => ?_⟩
  exact (exposed item).2 (((fewExposed item).1 present).mono subset)

/-! ## Result -/

/-- Asking for less never makes a build fail and never adds a flag or an item: when a request is
built, every request within it is built, to some of its flags and some of its items. -/
theorem run_mono (registry : Registry String) (constructed : registry.Constructed)
    (small large : Request String) (within : small.Within large) (result : BuildResult String)
    (built : registry.run large = .ok result) :
    ∃ smaller, registry.run small = .ok smaller ∧
      smaller.capabilities ⊆ result.capabilities ∧ smaller.items ⊆ result.items := by
  have wellFormed := constructed.wellFormed
  obtain ⟨_, resolved, ⟨mode, parsed, validated⟩, made⟩ := run_eq_ok_iff_stages.1 built
  obtain ⟨known, members⟩ := (resolve_eq_ok_iff wellFormed).1 resolved
  obtain ⟨capabilities, smallResolved, smallMembers, _⟩ :=
    Known.resolved wellFormed (Known.anti within known)
  have subset : capabilities ⊆ result.capabilities := fun name present =>
    (members name).2 (Enabled.mono within ((smallMembers name).1 present))
  -- What the larger build was allowed to enable, the smaller one is too.
  have smallValidated := validate_anti subset validated
  rw [← within.artifacts] at smallValidated
  rw [← within.mode] at parsed
  obtain ⟨items, smallMade, fewer⟩ :=
    materialize_anti wellFormed subset (resolve_declared wellFormed resolved) made
  exact ⟨⟨small, capabilities, items⟩,
    run_eq_ok_iff_stages.2 ⟨rfl, smallResolved, ⟨mode, parsed, smallValidated⟩, smallMade⟩,
    subset, fewer⟩

theorem run_mono_smallRegistry :
    smallRegistry.Constructed ∧
      (pinnedRequest ["rc"] false).Within (pinnedRequest ["derive", "rc"] true) ∧
      smallRegistry.run (pinnedRequest ["derive", "rc"] true) =
        .ok ⟨pinnedRequest ["derive", "rc"] true, .ofList ["derive", "macros", "rc", "std"],
          .ofList ["Derive", "String", "Vec"]⟩ ∧
      ∃ smaller, smallRegistry.run (pinnedRequest ["rc"] false) = .ok smaller ∧
        smaller.capabilities ⊆ NameSet.ofList ["derive", "macros", "rc", "std"] ∧
        smaller.items ⊆ NameSet.ofList ["Derive", "String", "Vec"] := by
  have within : (pinnedRequest ["rc"] false).Within (pinnedRequest ["derive", "rc"] true) := {
    features := by simp [NameSet.subset_iff, pinnedRequest]
    defaults := fun _ => rfl
    artifacts := rfl
    mode := rfl }
  have built : smallRegistry.run (pinnedRequest ["derive", "rc"] true) =
      .ok ⟨pinnedRequest ["derive", "rc"] true, .ofList ["derive", "macros", "rc", "std"],
        .ofList ["Derive", "String", "Vec"]⟩ := by
    decide
  exact ⟨constructed_smallRegistry, within, built,
    run_mono smallRegistry constructed_smallRegistry _ _ within _ built⟩

end Registry

end FeatureResolution
