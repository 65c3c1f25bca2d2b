import FeatureResolution.Proofs.Build

/-!
# Registries that agree

What is computed from a registry depends on little of it: on the flags that are looked up on the
way, on the default set and on the conflict pairs. So two registries give the same results, errors
included, wherever they agree on these: the validation and the surface of some flags depend on these
flags alone (`validate_congr`, `materialize_congr`), the closure of a request on what it enables
(`resolve_congr`), and a run on all of it (`run_congr`).
-/

namespace FeatureResolution.Registry

variable {registry other : Registry String}

/-- Two registries have the same flag under each of some names. -/
def AgreeOn (names : NameSet String) (registry other : Registry String) : Prop :=
  ∀ name ∈ names, other.get name = registry.get name

theorem validate_congr {capabilities : NameSet String}
    (agree : AgreeOn capabilities registry other) (declared : String → Except Error (Option String))
    (mode : BuildMode) : other.validate capabilities declared mode =
      registry.validate capabilities declared mode := by
  rw [validate, validate, NameSet.sorted_text, ok_bind, ok_bind]
  refine forM_congr fun name present => ?_
  rw [validateFlag, validateFlag, contractFor, contractFor,
    agree name (NameSet.mem_toList.1 present)]

theorem materialize_congr {capabilities : NameSet String}
    (agree : AgreeOn capabilities registry other)
    (conflicts : other.checkConflicts capabilities = registry.checkConflicts capabilities) :
    other.materialize capabilities = registry.materialize capabilities := by
  rw [materialize, materialize, conflicts]
  refine congrArg _ (funext fun _ => foldlM_congr (fun items name present => ?_) ∅)
  rw [agree name (NameSet.mem_toList.1 present)]

theorem resolve_congr (wellFormed : registry.WellFormed) (otherWellFormed : other.WellFormed)
    {requested : NameSet String} {defaultFeatures : Bool}
    (unknown : ∀ name ∈ requested, other.Unknown name ↔ registry.Unknown name)
    (enables : ∀ name, other.Enables requested defaultFeatures name ↔
      registry.Enables requested defaultFeatures name) :
    other.resolve requested defaultFeatures = registry.resolve requested defaultFeatures := by
  match resolved : registry.resolve requested defaultFeatures with
  | .ok capabilities =>
    obtain ⟨known, members⟩ := (resolve_eq_ok_iff wellFormed).1 resolved
    refine (resolve_eq_ok_iff otherWellFormed).2 ⟨fun name present isUnknown => ?_, fun name => ?_⟩
    · exact known name present ((unknown name present).1 isUnknown)
    · exact (members name).trans (enables name).symm
  | .error error =>
    -- Both refuse the same names, so the least of them is the same.
    obtain ⟨name, present, isUnknown, least, rfl⟩ := (resolve_eq_error_iff wellFormed).1 resolved
    refine resolve_eq_error defaultFeatures present ((unknown name present).2 isUnknown) ?_
    exact fun second secondPresent secondUnknown =>
      least second secondPresent ((unknown second secondPresent).1 secondUnknown)

/-- A request runs alike in registries that resolve it alike and agree on what it enables. -/
theorem run_congr {request : Request String}
    (resolved : other.resolve request.features request.defaultFeatures.truthy =
      registry.resolve request.features request.defaultFeatures.truthy)
    (agree : ∀ capabilities,
      registry.resolve request.features request.defaultFeatures.truthy = .ok capabilities →
        AgreeOn capabilities registry other ∧
          other.checkConflicts capabilities = registry.checkConflicts capabilities) :
    other.run request = registry.run request := by
  rw [run_stages, run_stages, resolved]
  match enabled : registry.resolve request.features request.defaultFeatures.truthy with
  | .error _ => rfl
  | .ok capabilities =>
    obtain ⟨flags, conflicts⟩ := agree capabilities enabled
    simp only [ok_bind, validate_congr flags, materialize_congr flags conflicts]

end FeatureResolution.Registry
