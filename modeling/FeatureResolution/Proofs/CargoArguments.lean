import FeatureResolution.Proofs.Explanation
import FeatureResolution.Proofs.FeatureText
import FeatureResolution.Surface

/-!
# Reading the arguments of a package build back

The arguments that a resolved build is handed on with name the enabled features; dependencies are
left out. Read back, they ask for these features alone (`cargoFeatures_cargoArguments`), and what
the features imply comes back with them (`resolve_enabledFeatures`). So dependencies that some
enabled feature leads to are recovered, and only those that were asked for by themselves can be
lost.
-/

namespace FeatureResolution.Registry

open Relation

variable {registry : Registry String}

/-- The features that the arguments of a package build ask for. -/
def cargoFeatures (arguments : String) : List String :=
  if arguments = "--no-default-features" then []
  else splitFeatures
    (String.ofList (arguments.toList.drop "--no-default-features --features ".length))

/-- A flag of the registry is a feature. -/
def IsFeature (registry : Registry String) (name : String) : Prop :=
  ∃ flag ∈ registry.flags, flag.name = name ∧ flag.kind = .feature

/-! ## The arguments -/

/-- What is read back from the arguments is what they were made of. -/
theorem cargoFeatures_cargoArguments {names : List String}
    (plain : ∀ name ∈ names, PlainFeature name) : cargoFeatures (cargoArguments names) = names := by
  cases names with
  | nil => rfl
  | cons first rest =>
    have behind : (cargoArguments (first :: rest)).toList =
        "--no-default-features --features ".toList ++
          (String.intercalate "," (first :: rest)).toList :=
      String.toList_append
    have longer : cargoArguments (first :: rest) ≠ "--no-default-features" := by
      intro bare
      have lengths := congrArg List.length (behind.symm.trans (congrArg String.toList bare))
      have short : "--no-default-features".toList.length <
        "--no-default-features --features ".toList.length := by decide
      rw [List.length_append] at lengths
      omega
    rw [cargoFeatures, if_neg longer, behind, List.drop_left' String.length_toList,
      String.ofList_toList, splitFeatures_intercalate plain]

theorem mem_enabledFeatures {capabilities : NameSet String} {name : String} :
    name ∈ registry.enabledFeatures capabilities ↔
      name ∈ capabilities ∧ registry.IsFeature name := by
  rw [enabledFeatures, List.mem_map]
  simp only [List.mem_filter, decide_eq_true_eq]
  constructor
  · rintro ⟨flag, ⟨inTable, enabled, isFeature⟩, rfl⟩
    exact ⟨enabled, flag, inTable, rfl, isFeature⟩
  · rintro ⟨enabled, flag, inTable, rfl, isFeature⟩
    exact ⟨flag, ⟨inTable, enabled, isFeature⟩, rfl⟩

theorem render_cargo (capabilities : NameSet String) (items : Option (List String)) :
    registry.render capabilities items .cargo =
      .ok (cargoArguments (registry.enabledFeatures capabilities)) := by
  rw [render, Label.texts_text]
  rfl

/-! ## Asking again -/

/-- What a reached flag leads to is reached. -/
theorem Reached.trans {start : String → Prop} {source name : String}
    (reached : registry.Reached start source)
    (path : ReflTransGen (Implies registry.flags) source name) : registry.Reached start name := by
  obtain ⟨origin, started, toSource⟩ := reached
  exact ⟨origin, started, toSource.trans path⟩

/-- Declared flags, asked for without the default set, are resolved to what they lead to. -/
theorem resolve_declared_flags (wellFormed : registry.WellFormed) {names : List String}
    (declared : ∀ name ∈ names, name ∈ registry.names) :
    ∃ enabled, registry.resolve (.ofList names) false = .ok enabled ∧
      ∀ name, name ∈ enabled ↔ registry.Reached (· ∈ names) name := by
  have setDeclared : ∀ name ∈ NameSet.ofList names, name ∈ registry.names :=
    fun name present => declared name (NameSet.mem_ofList.1 present)
  obtain ⟨enabled, resolved, members, _⟩ := resolve_eq_ok wellFormed false
    fun name present unknown => unknown.2 (setDeclared name present)
  refine ⟨enabled, resolved, fun name => (members name).trans ?_⟩
  simp only [Enables, Reached, starts_declared_iff wellFormed setDeclared, NameSet.mem_ofList]

/-- The enabled features of a resolution, asked for alone, enable flags of it only: those that some
enabled feature leads to. -/
theorem resolve_enabledFeatures (wellFormed : registry.WellFormed)
    {requested capabilities : NameSet String} {defaultFeatures : Bool}
    (resolved : registry.resolve requested defaultFeatures = .ok capabilities) :
    ∃ back, registry.resolve (.ofList (registry.enabledFeatures capabilities)) false = .ok back ∧
      (∀ name, name ∈ back ↔
        registry.Reached (fun source => source ∈ capabilities ∧ registry.IsFeature source) name) ∧
      back ⊆ capabilities := by
  have members := ((resolve_eq_ok_iff wellFormed).1 resolved).2
  obtain ⟨back, backResolved, backMembers⟩ :=
    resolve_declared_flags wellFormed fun name present =>
      resolve_declared wellFormed resolved name (mem_enabledFeatures.1 present).1
  simp only [mem_enabledFeatures] at backMembers
  refine ⟨back, backResolved, backMembers, fun name inBack => ?_⟩
  obtain ⟨source, ⟨enabled, _⟩, path⟩ := (backMembers name).1 inBack
  exact (members name).2 (((members source).1 enabled).trans path)

/-! ## Result -/

/-- The arguments of a package build reproduce the build they were made from: they can be read back
and resolved without the default set, and that enables exactly what the enabled features lead to. So
nothing but dependencies can be missing, and nothing is missing when the build started from
features only. -/
theorem cargo_roundTrip (registry : Registry String) (constructed : registry.Constructed)
    (plain : ∀ name ∈ registry.names, PlainFeature name) (requested : List String)
    (defaultFeatures : Bool) (capabilities : NameSet String)
    (resolved : registry.resolve (.ofList requested) defaultFeatures = .ok capabilities) :
    ∃ arguments back, registry.render capabilities none .cargo = .ok arguments ∧
      registry.resolve (.ofList (cargoFeatures arguments)) false = .ok back ∧
      (∀ name, name ∈ back ↔
        registry.Reached (fun source => source ∈ capabilities ∧ registry.IsFeature source) name) ∧
      back ⊆ capabilities ∧
      (∀ name, registry.IsFeature name → (name ∈ back ↔ name ∈ capabilities)) ∧
      ((∀ name, registry.Starts (.ofList requested) defaultFeatures name →
        registry.IsFeature name) → back = capabilities) := by
  have wellFormed := constructed.wellFormed
  have members := ((resolve_eq_ok_iff wellFormed).1 resolved).2
  have read : cargoFeatures (cargoArguments (registry.enabledFeatures capabilities)) =
      registry.enabledFeatures capabilities :=
    cargoFeatures_cargoArguments fun name present =>
      plain name (resolve_declared wellFormed resolved name
        (mem_enabledFeatures.1 present).1)
  obtain ⟨back, backResolved, backMembers, subset⟩ := resolve_enabledFeatures wellFormed resolved
  refine ⟨_, back, render_cargo capabilities none, by rw [read, backResolved], backMembers, subset,
    fun name isFeature => ⟨subset name, fun enabled => ?_⟩, fun onlyFeatures => ?_⟩
  · exact (backMembers name).2 ⟨name, ⟨enabled, isFeature⟩, .refl⟩
  · refine NameSet.ext fun name => ⟨subset name, fun enabled => (backMembers name).2 ?_⟩
    -- Every start is an enabled feature, so what the starts lead to comes back.
    obtain ⟨source, starts, path⟩ := (members name).1 enabled
    have sourceEnabled := (members source).2 ⟨source, starts, .refl⟩
    exact ⟨source, ⟨sourceEnabled, onlyFeatures source starts⟩, path⟩

theorem cargo_roundTrip_smallRegistry :
    smallRegistry.Constructed ∧ (∀ name ∈ smallRegistry.names, PlainFeature name) ∧
      smallRegistry.resolve (.ofList ["rc", "derive"]) false =
        .ok (.ofList ["derive", "macros", "rc", "std"]) ∧
      ∃ arguments back,
        smallRegistry.render (.ofList ["derive", "macros", "rc", "std"]) none .cargo =
          .ok arguments ∧
        arguments = "--no-default-features --features derive,rc,std" ∧
        smallRegistry.resolve (.ofList (cargoFeatures arguments)) false = .ok back ∧
        back ⊆ NameSet.ofList ["derive", "macros", "rc", "std"] := by
  have plain : ∀ name ∈ smallRegistry.names, PlainFeature name := by decide
  have resolved : smallRegistry.resolve (.ofList ["rc", "derive"]) false =
      .ok (.ofList ["derive", "macros", "rc", "std"]) := by
    decide
  obtain ⟨arguments, back, rendered, backResolved, _, subset, _⟩ :=
    cargo_roundTrip smallRegistry constructed_smallRegistry plain ["rc", "derive"] false _ resolved
  refine ⟨constructed_smallRegistry, plain, resolved, arguments, back, rendered, ?_, backResolved,
    subset⟩
  have written : smallRegistry.render (.ofList ["derive", "macros", "rc", "std"]) none .cargo =
      .ok "--no-default-features --features derive,rc,std" := by
    decide
  exact Except.ok.inj (rendered.symm.trans written)

end FeatureResolution.Registry
