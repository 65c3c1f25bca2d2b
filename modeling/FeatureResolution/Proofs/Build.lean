import FeatureResolution.Build
import FeatureResolution.Proofs.Pins
import FeatureResolution.Proofs.Surface

/-!
# What comes of a build request

A build request fails at the first of four stages that finds something to report, or it is built.
`Outcome` lists the five ways it can end, each with what has to hold of the request and of the
registry.

Result: a run ends in exactly one of these ways (`outcome_run`, `Outcome.run_eq`).
-/

namespace FeatureResolution

/-! ## Modes -/

namespace BuildMode

theorem parse_eq_ok_iff {mode : Document} {known : BuildMode} :
    parse mode = .ok known ↔ mode = .text known.name := by
  unfold parse
  split
  · next isRelease => cases known <;> simp [isRelease, name]
  · next notRelease =>
    split
    · next isDev => cases known <;> simp [isDev, name]
    · next notDev => cases known <;> simp [notRelease, notDev, name]

theorem parse_eq_error_iff {mode : Document} {error : Error} :
    parse mode = .error error ↔ mode ≠ .text "release" ∧ mode ≠ .text "dev" ∧
      error = .fault (if mode.isWritable then .unknownBuildMode mode else .numberTooLong) := by
  unfold parse
  split
  · next isRelease => simp [isRelease]
  · next notRelease =>
    split
    · next isDev => simp [isDev]
    · next notDev =>
      constructor
      · rintro ⟨⟩
        exact ⟨notRelease, notDev, rfl⟩
      · rintro ⟨_, _, rfl⟩
        rfl

end BuildMode

namespace Registry

variable {registry : Registry String} {request : Request String}

/-! ## Outcomes -/

/-- A request names no unknown flag. -/
def Known (registry : Registry String) (request : Request String) : Prop :=
  ∀ name ∈ request.features, ¬ registry.Unknown name

/-- A build request enables a flag. -/
def Enabled (registry : Registry String) (request : Request String) : String → Prop :=
  registry.Enables request.features request.defaultFeatures.truthy

/-- No enabled flag is unmet. -/
def Met (registry : Registry String) (request : Request String) (mode : BuildMode) : Prop :=
  ∀ name, registry.Enabled request name → ∀ error,
    ¬ registry.Unmet request.artifacts mode name error

/-- How a build request ends.

* `unknownFlag`: the least unknown name in the request is reported.
* `unknownMode`: the mode is neither of the two; it is told unless it is a number too long for it.
* `unmet`: what is wrong with the unmet flag of the least name is reported.
* `conflict`: the first conflict pair that is enabled is reported as it was declared.
* `built`: the enabled flags and the items that they provide are handed on.

Each way supposes that the stages before it have found nothing to report. -/
inductive Outcome (registry : Registry String) (request : Request String) :
    Except Error (BuildResult String) → Prop
  | unknownFlag {name : String} : name ∈ request.features → registry.Unknown name →
      (∀ other ∈ request.features, registry.Unknown other → name ≤ other) →
      Outcome registry request (.error (.unknownFlag (.text name)))
  | unknownMode : registry.Known request →
      request.mode ≠ .text "release" → request.mode ≠ .text "dev" →
      Outcome registry request (.error (.fault
        (if request.mode.isWritable then .unknownBuildMode request.mode else .numberTooLong)))
  | unmet {mode : BuildMode} {name : String} {error : Error} : registry.Known request →
      request.mode = .text mode.name → registry.Enabled request name →
      registry.Unmet request.artifacts mode name error →
      (∀ other, registry.Enabled request other →
        (∃ cause, registry.Unmet request.artifacts mode other cause) → name ≤ other) →
      Outcome registry request (.error error)
  | conflict {mode : BuildMode} {before after : List (String × String)} {first second : String} :
      registry.Known request → request.mode = .text mode.name → registry.Met request mode →
      registry.conflicts = before ++ (first, second) :: after →
      registry.Enabled request first → registry.Enabled request second →
      (∀ pair ∈ before, ¬ (registry.Enabled request pair.1 ∧ registry.Enabled request pair.2)) →
      Outcome registry request (.error (.conflict (.text first) (.text second)))
  | built {mode : BuildMode} {capabilities items : NameSet String} : registry.Known request →
      request.mode = .text mode.name → registry.Met request mode →
      (∀ pair ∈ registry.conflicts,
        ¬ (registry.Enabled request pair.1 ∧ registry.Enabled request pair.2)) →
      (∀ name, name ∈ capabilities ↔ registry.Enabled request name) →
      (∀ item, item ∈ items ↔
        ∃ flag ∈ registry.flags, registry.Enabled request flag.name ∧ item ∈ flag.provides) →
      Outcome registry request (.ok ⟨request, capabilities, items⟩)

/-! ## Stages -/

theorem run_stages (registry : Registry String) (request : Request String) :
    registry.run request = do
      let capabilities ← registry.resolve request.features request.defaultFeatures.truthy
      let mode ← BuildMode.parse request.mode
      registry.validate capabilities request.artifacts.declared mode
      let items ← registry.materialize capabilities
      return ⟨request, capabilities, items⟩ := by
  unfold run surfaceOf
  simp only [bind_assoc, pure_bind]

/-- A request is built when every stage passes, and what is built is what the stages found. -/
theorem run_eq_ok_iff_stages {result : BuildResult String} :
    registry.run request = .ok result ↔ result.request = request ∧
      registry.resolve request.features request.defaultFeatures.truthy =
        .ok result.capabilities ∧
      (∃ mode, BuildMode.parse request.mode = .ok mode ∧
        registry.validate result.capabilities request.artifacts.declared mode = .ok ()) ∧
      registry.materialize result.capabilities = .ok result.items := by
  rw [run_stages, bind_eq_ok_iff]
  constructor
  · rintro ⟨capabilities, resolved, later⟩
    obtain ⟨mode, parsed, later⟩ := bind_eq_ok_iff.1 later
    obtain ⟨_, validated, later⟩ := bind_eq_ok_iff.1 later
    obtain ⟨items, made, ⟨⟩⟩ := bind_eq_ok_iff.1 later
    exact ⟨rfl, resolved, ⟨mode, parsed, validated⟩, made⟩
  · rintro ⟨rfl, resolved, ⟨mode, parsed, validated⟩, made⟩
    refine ⟨result.capabilities, resolved, ?_⟩
    rw [parsed, ok_bind, validated, ok_bind, made]
    rfl

/-- A request without unknown flags is resolved to the flags it enables, which are declared. -/
theorem Known.resolved (wellFormed : registry.WellFormed) (known : registry.Known request) :
    ∃ capabilities, registry.resolve request.features request.defaultFeatures.truthy =
        .ok capabilities ∧
      (∀ name, name ∈ capabilities ↔ registry.Enabled request name) ∧
      ∀ name ∈ capabilities, name ∈ registry.names := by
  obtain ⟨capabilities, resolved, members, _⟩ :=
    resolve_eq_ok wellFormed request.defaultFeatures.truthy known
  exact ⟨capabilities, resolved, members, resolve_declared wellFormed resolved⟩

/-- A request without unknown flags in a known mode is up to the validation and the surface of the
flags it enables. -/
theorem Known.run_eq (wellFormed : registry.WellFormed) (known : registry.Known request)
    {mode : BuildMode} (named : request.mode = .text mode.name) :
    ∃ capabilities, (∀ name, name ∈ capabilities ↔ registry.Enabled request name) ∧
      (∀ name ∈ capabilities, name ∈ registry.names) ∧
      registry.run request = do
        registry.validate capabilities request.artifacts.declared mode
        let items ← registry.materialize capabilities
        return ⟨request, capabilities, items⟩ := by
  obtain ⟨capabilities, resolved, members, declared⟩ := known.resolved wellFormed
  refine ⟨capabilities, members, declared, ?_⟩
  rw [run_stages, resolved, ok_bind, BuildMode.parse_eq_ok_iff.2 named, ok_bind]

/-- The first stage that finds something to report decides how a run ends. -/
theorem outcome_run (wellFormed : registry.WellFormed) (pinsRead : registry.PinsRead)
    (request : Request String) : registry.Outcome request (registry.run request) := by
  have distinct := wellFormed.coherent.distinct
  have indexed := indexed_of_nodup distinct
  rw [run_stages]
  match resolved : registry.resolve request.features request.defaultFeatures.truthy with
  | .error error =>
    obtain ⟨name, present, unknown, least, rfl⟩ := (resolve_eq_error_iff wellFormed).1 resolved
    exact .unknownFlag present unknown least
  | .ok capabilities =>
    have known : registry.Known request := ((resolve_eq_ok_iff wellFormed).1 resolved).1
    have members : ∀ name, name ∈ capabilities ↔ registry.Enabled request name :=
      ((resolve_eq_ok_iff wellFormed).1 resolved).2
    have declared := resolve_declared wellFormed resolved
    rw [ok_bind]
    match parsed : BuildMode.parse request.mode with
    | .error error =>
      obtain ⟨notRelease, notDev, rfl⟩ := BuildMode.parse_eq_error_iff.1 parsed
      exact .unknownMode known notRelease notDev
    | .ok mode =>
      have named := BuildMode.parse_eq_ok_iff.1 parsed
      rw [ok_bind]
      match validated : registry.validate capabilities request.artifacts.declared mode with
      | .error error =>
        obtain ⟨name, present, unmet, least⟩ :=
          (validate_eq_error_iff distinct pinsRead declared).1 validated
        simp only [members] at present least
        exact .unmet known named present unmet least
      | .ok () =>
        have met := (validate_eq_ok_iff distinct pinsRead declared).1 validated
        simp only [members] at met
        rw [ok_bind]
        match made : registry.materialize capabilities with
        | .error error =>
          obtain ⟨before, first, second, after, whole, clash, noneBefore, rfl⟩ :=
            checkConflicts_eq_error_iff.1
              ((materialize_eq_error_iff indexed (hasAll_iff.2 declared)).1 made)
          simp only [Clash, members] at clash noneBefore
          exact .conflict known named met whole clash.1 clash.2 noneBefore
        | .ok items =>
          obtain ⟨noClash, provided⟩ :=
            (materialize_eq_ok_iff indexed (hasAll_iff.2 declared)).1 made
          simp only [Clash, Exposes, members] at noClash provided
          exact .built known named met noClash members provided

/-- In no other way can a run end. -/
theorem Outcome.run_eq (wellFormed : registry.WellFormed) (pinsRead : registry.PinsRead)
    {outcome : Except Error (BuildResult String)} (ends : registry.Outcome request outcome) :
    registry.run request = outcome := by
  have distinct := wellFormed.coherent.distinct
  have indexed := indexed_of_nodup distinct
  cases ends with
  | unknownFlag present unknown least =>
    rw [run_stages, resolve_eq_error _ present unknown least, error_bind]
  | unknownMode known notRelease notDev =>
    obtain ⟨capabilities, resolved, _⟩ := known.resolved wellFormed
    have refused := BuildMode.parse_eq_error_iff.2 ⟨notRelease, notDev, rfl⟩
    rw [run_stages, resolved, ok_bind, refused, error_bind]
  | unmet known named present unmet least =>
    obtain ⟨capabilities, members, declared, run_eq⟩ := known.run_eq wellFormed named
    simp only [← members] at present least
    have failed := (validate_eq_error_iff distinct pinsRead declared).2
      ⟨_, present, unmet, least⟩
    rw [run_eq, failed, error_bind]
  | conflict known named met whole first second noneBefore =>
    obtain ⟨capabilities, members, declared, run_eq⟩ := known.run_eq wellFormed named
    simp only [Met, ← members] at met first second noneBefore
    have valid := (validate_eq_ok_iff distinct pinsRead declared).2 met
    have clash := checkConflicts_eq_error_iff.2
      ⟨_, _, _, _, whole, ⟨first, second⟩, noneBefore, rfl⟩
    have refused := (materialize_eq_error_iff indexed (hasAll_iff.2 declared)).2 clash
    rw [run_eq, valid, ok_bind, refused, error_bind]
    rfl
  | built known named met noClash members provided =>
    obtain ⟨enabled, enabledMembers, declared, run_eq⟩ := known.run_eq wellFormed named
    -- Both sets hold exactly the enabled flags, so they are one set.
    cases NameSet.ext fun name => (enabledMembers name).trans (members name).symm
    simp only [Met, ← members] at met noClash provided
    have valid := (validate_eq_ok_iff distinct pinsRead declared).2 met
    have made := (materialize_eq_ok_iff indexed (hasAll_iff.2 declared)).2 ⟨noClash, provided⟩
    rw [run_eq, valid, ok_bind, made]
    rfl

/-! ## Result -/

/-- A run of a request against a made registry whose contracts were read from requirements ends as
one of the five outcomes, and each outcome that the request allows is how the run ends. -/
theorem run_eq_iff_outcome (registry : Registry String) (constructed : registry.Constructed)
    (pinsRead : registry.PinsRead) (request : Request String)
    (outcome : Except Error (BuildResult String)) :
    registry.run request = outcome ↔ registry.Outcome request outcome := by
  have wellFormed := constructed.wellFormed
  constructor
  · rintro rfl
    exact outcome_run wellFormed pinsRead request
  · exact fun ends => ends.run_eq wellFormed pinsRead

/-- Declared versions that keep no exact pin, for flags that exclude each other. -/
def clashingRequest (mode : String) : Request String where
  features := .ofList ["tiny", "derive"]
  defaultFeatures := .bool false
  artifacts := [("macros", "1.0.140")]
  mode := .text mode

/-- A request whose declared version keeps the exact pin. -/
def pinnedRequest (features : List String) (defaultFeatures : Bool) : Request String where
  features := .ofList features
  defaultFeatures := .bool defaultFeatures
  artifacts := [("macros", "1.0.139")]

theorem pinsRead_smallRegistry : smallRegistry.PinsRead := by
  have pin : Contract.Read ⟨"macros", "1.0.139", .exact⟩ := ⟨"macros", "=1.0.139", by decide⟩
  have range : Contract.Read ⟨"macros", "1.0", .compatible⟩ := ⟨"macros", "1.0", by decide⟩
  simpa [PinsRead, smallRegistry, or_imp, forall_and] using ⟨pin, range⟩

theorem run_smallRegistry_outcome :
    smallRegistry.Constructed ∧ smallRegistry.PinsRead ∧
      smallRegistry.Outcome (clashingRequest "release") (.error
        (.versionMismatch (.text "1.0.139") (.text "1.0.140") (.text "macros"))) ∧
      smallRegistry.Outcome (clashingRequest "dev") (.error
        (.conflict (.text "tiny") (.text "std"))) :=
  ⟨constructed_smallRegistry, pinsRead_smallRegistry,
    (run_eq_iff_outcome smallRegistry constructed_smallRegistry pinsRead_smallRegistry _ _).1
      (by decide),
    (run_eq_iff_outcome smallRegistry constructed_smallRegistry pinsRead_smallRegistry _ _).1
      (by decide)⟩

end Registry

end FeatureResolution
