import FeatureResolution.Proofs.Closure

/-!
# What explains a resolution

`Registry.explain` gives for each enabled flag the enabled flags that imply it (`Explains`). The
flags that it gives no reason for are the roots of the resolution.

A root was asked for, since nothing enabled leads to it. Implications form no cycle, so going back
along them from any enabled flag ends at a root, and the roots alone enable everything again. For
the first reason no declared flags without one of the roots do.
-/

namespace FeatureResolution.Registry

open Relation

variable {registry : Registry String}

/-- The flags that an explanation gives no reason for. -/
def roots (reasons : List (String × NameSet String)) : NameSet String :=
  .ofList ((reasons.filter (·.2.isEmpty)).map (·.1))

/-- The reasons for enabled flags are the enabled flags that imply them directly. -/
structure Explains (registry : Registry String) (capabilities : NameSet String)
    (reasons : List (String × NameSet String)) : Prop where
  keys : reasons.map (·.1) = capabilities.toList
  parents : ∀ target parents, (target, parents) ∈ reasons → ∀ name,
    name ∈ parents ↔ name ∈ capabilities ∧ Implies registry.flags name target

/-! ## The explanation -/

/-- What each of some declared flags implies can be read off. -/
theorem edges_eq_ok (wellFormed : registry.WellFormed) {names : List String}
    (declared : ∀ name ∈ names, name ∈ registry.names) :
    ∃ edges, (names.mapM fun name => return (name, ← registry.impliedBy name)) = .ok edges ∧
      ∀ name implied, (name, implied) ∈ edges ↔
        name ∈ names ∧ registry.impliedBy name = .ok implied := by
  have readable : ∀ name ∈ names, ∃ edge,
      (do return (name, ← registry.impliedBy name) : Except Error (String × NameSet String)) =
        .ok edge := by
    intro name present
    obtain ⟨implied, lookedUp, _⟩ := impliedBy_of_mem wellFormed (declared name present)
    exact ⟨(name, implied), by rw [lookedUp]; rfl⟩
  obtain ⟨edges, read, members⟩ := mapM_eq_ok readable
  refine ⟨edges, read, fun name implied => (members (name, implied)).trans ?_⟩
  constructor
  · rintro ⟨item, present, edgeRead⟩
    obtain ⟨found, lookedUp, ⟨⟩⟩ := bind_eq_ok_iff.1 edgeRead
    exact ⟨present, lookedUp⟩
  · rintro ⟨present, lookedUp⟩
    exact ⟨name, present, by rw [lookedUp]; rfl⟩

/-- Declared flags are explained. -/
theorem explain_eq_ok (wellFormed : registry.WellFormed) {capabilities : NameSet String}
    (declared : ∀ name ∈ capabilities, name ∈ registry.names) :
    ∃ reasons, registry.explain capabilities = .ok reasons ∧
      registry.Explains capabilities reasons := by
  obtain ⟨edges, read, edge_iff⟩ := edges_eq_ok wellFormed fun name present =>
    declared name (NameSet.mem_toList.1 present)
  refine ⟨_, by rw [explain, read, ok_bind]; rfl, ?_, ?_⟩
  · rw [List.map_map]
    exact List.map_id _
  · intro target parents entry name
    obtain ⟨_, _, ⟨⟩⟩ := List.mem_map.1 entry
    have kept : name ∈ (edges.filter fun edge => target ∈ edge.2).map (·.1) ↔
        name ∈ capabilities ∧
          ∃ implied, registry.impliedBy name = .ok implied ∧ target ∈ implied := by
      simp [edge_iff, and_assoc]
    rw [NameSet.mem_ofList, kept]
    exact and_congr_right fun present => exists_impliedBy_iff wellFormed (declared name present)

/-- The roots are the enabled flags that no enabled flag implies. -/
theorem Explains.mem_roots {capabilities : NameSet String}
    {reasons : List (String × NameSet String)} (explains : registry.Explains capabilities reasons)
    {name : String} :
    name ∈ roots reasons ↔
      name ∈ capabilities ∧ ∀ other ∈ capabilities, ¬ Implies registry.flags other name := by
  have listed : name ∈ capabilities ↔ ∃ parents, (name, parents) ∈ reasons := by
    rw [← NameSet.mem_toList, ← explains.keys, List.mem_map]
    exact ⟨fun ⟨⟨_, parents⟩, entry, named⟩ => ⟨parents, named ▸ entry⟩,
      fun ⟨parents, entry⟩ => ⟨(name, parents), entry, rfl⟩⟩
  have empty_iff (parents : NameSet String) (entry : (name, parents) ∈ reasons) :
      parents = ∅ ↔ ∀ other ∈ capabilities, ¬ Implies registry.flags other name := by
    rw [NameSet.ext_iff]
    simp [explains.parents name parents entry]
  rw [roots, NameSet.mem_ofList, List.mem_map, listed]
  constructor
  · rintro ⟨⟨_, parents⟩, kept, rfl⟩
    obtain ⟨entry, noParents⟩ := List.mem_filter.1 kept
    exact ⟨⟨parents, entry⟩, (empty_iff parents entry).1 (NameSet.isEmpty_iff.1 noParents)⟩
  · rintro ⟨⟨parents, entry⟩, unimplied⟩
    have noParents := NameSet.isEmpty_iff.2 ((empty_iff parents entry).2 unimplied)
    exact ⟨(name, parents), List.mem_filter.2 ⟨entry, noParents⟩, rfl⟩

/-! ## Roots and starts -/

/-- What is reached, but from nothing that is reached, is among the starts. -/
theorem Reached.start_of_source {start : String → Prop} {name : String}
    (reached : registry.Reached start name)
    (isSource : ∀ other, registry.Reached start other → ¬ Implies registry.flags other name) :
    start name := by
  obtain ⟨source, started, path⟩ := reached
  cases path with
  | refl => exact started
  | @tail before _ path step => exact absurd step (isSource before ⟨source, started, path⟩)

/-- Every root of a resolution is a start of each request that is resolved so. -/
theorem Explains.starts_of_mem_roots (wellFormed : registry.WellFormed)
    {requested capabilities : NameSet String} {defaultFeatures : Bool}
    {reasons : List (String × NameSet String)} (explains : registry.Explains capabilities reasons)
    (resolved : registry.resolve requested defaultFeatures = .ok capabilities) {root : String}
    (isRoot : root ∈ roots reasons) : registry.Starts requested defaultFeatures root := by
  have members := ((resolve_eq_ok_iff wellFormed).1 resolved).2
  obtain ⟨enabled, unimplied⟩ := explains.mem_roots.1 isRoot
  exact ((members root).1 enabled).start_of_source fun other reached =>
    unimplied other ((members other).2 reached)

/-- Declared flags without the default set are what their own request starts from. -/
theorem starts_declared_iff (wellFormed : registry.WellFormed) {generators : NameSet String}
    (declared : ∀ name ∈ generators, name ∈ registry.names) {name : String} :
    registry.Starts generators false name ↔ name ∈ generators := by
  have notReserved : defaultSetName ∉ generators := fun present =>
    wellFormed.coherent.unreserved (declared _ present)
  constructor
  · rintro (⟨present, _⟩ | ⟨wanted | wanted, _⟩)
    · exact present
    · cases wanted
    · exact absurd wanted notReserved
  · exact fun present => .inl ⟨present, fun reserved => notReserved (reserved ▸ present)⟩

/-- The roots of a resolution are resolved to the same flags. -/
theorem Explains.resolve_roots (wellFormed : registry.WellFormed)
    {requested capabilities : NameSet String} {defaultFeatures : Bool}
    {reasons : List (String × NameSet String)} (explains : registry.Explains capabilities reasons)
    (resolved : registry.resolve requested defaultFeatures = .ok capabilities) :
    registry.resolve (roots reasons) false = .ok capabilities := by
  have members := ((resolve_eq_ok_iff wellFormed).1 resolved).2
  have rootsDeclared : ∀ name ∈ roots reasons, name ∈ registry.names := fun name isRoot =>
    resolve_declared wellFormed resolved name (explains.mem_roots.1 isRoot).1
  refine (resolve_eq_ok_iff wellFormed).2 ⟨fun name isRoot unknown =>
    unknown.2 (rootsDeclared name isRoot), fun name => ⟨fun enabled => ?_, ?_⟩⟩
  · -- Without cycles the way back along implications between enabled flags ends at a root.
    obtain ⟨source, sourceEnabled, isSource, path⟩ := exists_source wellFormed.acyclic
      (fun _ _ => Implies.source_declared) (· ∈ capabilities) enabled
    have isRoot := explains.mem_roots.2 ⟨sourceEnabled, isSource⟩
    exact ⟨source, (starts_declared_iff wellFormed rootsDeclared).2 isRoot, path⟩
  · rintro ⟨root, starts, path⟩
    have isRoot := (starts_declared_iff wellFormed rootsDeclared).1 starts
    obtain ⟨origin, started, toRoot⟩ := (members root).1 (explains.mem_roots.1 isRoot).1
    exact (members name).2 ⟨origin, started, toRoot.trans path⟩

/-! ## Result -/

/-- What is resolved is explained: the explanation lists exactly the enabled flags and for each of
them exactly the enabled flags that imply it directly. Its roots were requested or belong to the
default set that was applied; they are resolved to the same flags again, and every other set of
declared flags that is so contains them. -/
theorem explain_grounded_minimal (registry : Registry String) (constructed : registry.Constructed)
    (requested : List String) (defaultFeatures : Bool) (capabilities : NameSet String)
    (resolved : registry.resolve (.ofList requested) defaultFeatures = .ok capabilities) :
    ∃ reasons, registry.explain capabilities = .ok reasons ∧
      registry.Explains capabilities reasons ∧
      (∀ root ∈ roots reasons, registry.Starts (.ofList requested) defaultFeatures root) ∧
      registry.resolve (roots reasons) false = .ok capabilities ∧
      ∀ generators : NameSet String, (∀ name ∈ generators, name ∈ registry.names) →
        registry.resolve generators false = .ok capabilities → roots reasons ⊆ generators := by
  have wellFormed := constructed.wellFormed
  obtain ⟨reasons, explained, explains⟩ :=
    explain_eq_ok wellFormed (resolve_declared wellFormed resolved)
  refine ⟨reasons, explained, explains, fun root isRoot => ?_, ?_, ?_⟩
  · exact explains.starts_of_mem_roots wellFormed resolved isRoot
  · exact explains.resolve_roots wellFormed resolved
  · intro generators generatorsDeclared generates root isRoot
    exact (starts_declared_iff wellFormed generatorsDeclared).1
      (explains.starts_of_mem_roots wellFormed generates isRoot)

theorem explain_smallRegistry :
    smallRegistry.Constructed ∧
      smallRegistry.resolve (.ofList ["std", "rc", "derive", "macros"]) true =
        .ok (.ofList ["derive", "macros", "rc", "std"]) ∧
      ∃ reasons,
        smallRegistry.explain (.ofList ["derive", "macros", "rc", "std"]) = .ok reasons ∧
        roots reasons = .ofList ["derive", "rc"] ∧
        smallRegistry.resolve (roots reasons) false =
          .ok (.ofList ["derive", "macros", "rc", "std"]) := by
  have resolved : smallRegistry.resolve (.ofList ["std", "rc", "derive", "macros"]) true =
      .ok (.ofList ["derive", "macros", "rc", "std"]) := by
    decide
  have explanation : smallRegistry.explain (.ofList ["derive", "macros", "rc", "std"]) =
      .ok [("derive", ∅), ("macros", .ofList ["derive"]), ("rc", ∅),
        ("std", .ofList ["macros", "rc"])] := by
    decide
  obtain ⟨reasons, explained, _, _, regenerated, _⟩ :=
    explain_grounded_minimal smallRegistry constructed_smallRegistry
      ["std", "rc", "derive", "macros"] true _ resolved
  have same := explanation.symm.trans explained
  cases same
  exact ⟨constructed_smallRegistry, resolved, _, explanation, by decide, regenerated⟩

end FeatureResolution.Registry
