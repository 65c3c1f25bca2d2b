import FeatureResolution.Proofs.Build
import FeatureResolution.Proofs.Safety

/-!
# Where declared versions matter

A build looks at declared versions only for the contracts that it is held to: those in force, in its
mode, on the flags that it enables (`Registry.HeldTo`). So what is declared of any other artifact
makes no difference (`validateFlag_congr`).

Where a build is held to an exact pin there is no second version to declare. A contract that one
version keeps can fail under another only as a violation on its own artifact
(`Contract.check_safe`), and the other contracts are kept as before (`validateFlag_differIn`). So a
build that succeeds is refused once the pinned artifact is declared otherwise or no more, and
whichever flag is reported, the report is about that artifact.
-/

namespace FeatureResolution

/-! ## Declarations that differ in one artifact -/

namespace Artifacts

/-- Two rows of declared versions differ in one artifact and in no other. -/
structure DifferIn (artifact : String) (artifacts changed : Artifacts String) : Prop where
  there : changed.version? artifact ≠ artifacts.version? artifact
  elsewhere : ∀ other, other ≠ artifact → changed.version? other = artifacts.version? other

/-- Declared versions without those of one artifact. -/
def withdraw (artifact : String) (artifacts : Artifacts String) : Artifacts String :=
  artifacts.filter (·.1 ≠ artifact)

theorem version?_withdraw (artifact other : String) (artifacts : Artifacts String) :
    (artifacts.withdraw artifact).version? other =
      if other = artifact then none else artifacts.version? other := by
  induction artifacts with
  | nil => simp [withdraw, version?]
  | cons entry rest ih =>
    obtain ⟨known, version⟩ := entry
    unfold withdraw at ih ⊢
    by_cases here : known = artifact
    · subst here
      by_cases same : other = known
      · simpa [version?, same] using ih
      · simpa [version?, same, Ne.symm same] using ih
    · by_cases same : known = other
      · subst same
        simp [version?, here]
      · simpa [version?, here, same] using ih

/-- Another version is declared in the place of the old one. -/
theorem differIn_declare {artifact version : String} {artifacts : Artifacts String}
    (new : artifacts.version? artifact ≠ some version) :
    DifferIn artifact artifacts (artifacts.declare artifact version) where
  there := by simpa [version?_declare] using new.symm
  elsewhere other different := by rw [version?_declare, if_neg different]

/-- A declared version is withdrawn. -/
theorem differIn_withdraw {artifact : String} {artifacts : Artifacts String}
    (declared : artifacts.version? artifact ≠ none) :
    DifferIn artifact artifacts (artifacts.withdraw artifact) where
  there := by simpa [version?_withdraw] using declared.symm
  elsewhere other different := by rw [version?_withdraw, if_neg different]

end Artifacts

/-- The same request with other declared versions. -/
def Request.declaring (request : Request String) (artifacts : Artifacts String) : Request String :=
  { request with artifacts }

/-! ## Contracts on an artifact -/

/-- The artifact that a violated contract is about. -/
def PinError.artifact : PinError → Document
  | .versionMismatch _ _ artifact => artifact
  | .incompatibleVersion _ _ artifact => artifact
  | .missingArtifact _ artifact => artifact

/-- A contract on an artifact is violated. -/
def ViolationOn (artifact : String) (error : Error) : Prop :=
  ∃ violated : PinError, error = .refused (.pin violated) ∧ violated.artifact = .text artifact

/-- A contract that some version keeps is kept or violated by every other. -/
theorem Contract.check_safe {contract : Contract String} {kept : String}
    (keeps : contract.check kept = .ok ()) (found : String) :
    Safe (ViolationOn contract.artifact) (fun _ => True) (contract.check found) := by
  have differs : ViolationOn contract.artifact (contract.mismatch found) := ⟨_, rfl, rfl⟩
  have outside : ViolationOn contract.artifact (contract.incompatibility found) := ⟨_, rfl, rfl⟩
  cases mode : contract.mode with
  | exact =>
    rw [check, mode]
    dsimp only
    split
    · trivial
    · exact differs
  | compatible =>
    -- The required version was parsed for the version that keeps the contract.
    rw [check, mode] at keeps
    obtain ⟨required, parsed, _⟩ := bind_eq_ok_iff.1 keeps
    rw [check, mode]
    dsimp only
    rw [parsed, ok_bind]
    split
    · exact outside
    · split
      · trivial
      · exact outside
  | other name =>
    rw [check, mode] at keeps
    cases keeps

theorem Contract.check_exact_iff {contract : Contract String} (exact : contract.mode = .exact)
    {found : String} : contract.check found = .ok () ↔ found = contract.version := by
  rw [check, exact]
  simp

namespace Registry

variable {registry : Registry String} {mode : BuildMode} {name artifact : String}
  {artifacts changed : Artifacts String}

/-- A build is held to a contract: in its mode it is the one in force on a flag that the build
enables. -/
def HeldTo (registry : Registry String) (request : Request String) (contract : Contract String) :
    Prop :=
  ∃ mode, request.mode = .text mode.name ∧
    ∃ flag ∈ registry.flags, registry.Enabled request flag.name ∧ flag.Lays mode contract

/-! ## One flag -/

theorem lays_of_contractFor {contract : Contract String}
    (found : registry.contractFor name mode = .ok (some contract)) :
    ∃ flag ∈ registry.flags, flag.name = name ∧ flag.Lays mode contract := by
  obtain ⟨flag, lookedUp, inForce⟩ := bind_eq_ok_iff.1 found
  rw [get, Label.isKey_text, if_pos rfl] at lookedUp
  split at lookedUp
  · next isFound =>
    cases lookedUp
    obtain ⟨present, named⟩ := Flag.mem_of_find? isFound
    exact ⟨flag, present, named, Flag.lays_iff.2 (Except.ok.inj inForce)⟩
  · cases lookedUp

/-- The check of a flag looks at what is declared of the artifact of its contract, and at nothing
else. -/
theorem validateFlag_congr (same : ∀ flag ∈ registry.flags, flag.name = name →
      ∀ contract, flag.Lays mode contract →
        changed.version? contract.artifact = artifacts.version? contract.artifact) :
    registry.validateFlag changed.declared mode name =
      registry.validateFlag artifacts.declared mode name := by
  unfold validateFlag
  cases found : registry.contractFor name mode with
  | error error => rfl
  | ok held =>
    cases held with
    | none => rfl
    | some contract =>
      obtain ⟨flag, present, named, lays⟩ := lays_of_contractFor found
      simp only [ok_bind, Artifacts.declared_text, same flag present named contract lays]

/-- A flag that passes its check fails it after a change in one artifact only over that artifact. -/
theorem validateFlag_differIn (passes : registry.validateFlag artifacts.declared mode name = .ok ())
    (differ : artifacts.DifferIn artifact changed) :
    Safe (ViolationOn artifact) (fun _ => True)
      (registry.validateFlag changed.declared mode name) := by
  unfold validateFlag at passes ⊢
  cases found : registry.contractFor name mode with
  | error error =>
    rw [found] at passes
    cases passes
  | ok held =>
    rw [found] at passes
    cases held with
    | none => trivial
    | some contract =>
      simp only [ok_bind, Artifacts.declared_text] at passes ⊢
      by_cases here : contract.artifact = artifact
      · subst here
        cases declared : artifacts.version? contract.artifact with
        | none =>
          rw [declared] at passes
          cases passes
        | some kept =>
          rw [declared] at passes
          cases changed.version? contract.artifact with
          | none => exact ⟨_, rfl, rfl⟩
          | some version => exact Contract.check_safe passes version
      · rw [differ.elsewhere _ here, passes]
        trivial

/-- A flag with an exact pin passes its check under the version that the pin names and no other. -/
theorem validateFlag_exact_iff (distinct : registry.names.Nodup) {flag : Flag String}
    (present : flag ∈ registry.flags) {contract : Contract String} (lays : flag.Lays mode contract)
    (exact : contract.mode = .exact) :
    registry.validateFlag artifacts.declared mode flag.name = .ok () ↔
      artifacts.version? contract.artifact = some contract.version := by
  rw [validateFlag, contractFor, get_of_mem distinct present]
  simp only [ok_bind, pure_bind, Flag.lays_iff.1 lays, Artifacts.declared_text]
  cases artifacts.version? contract.artifact with
  | none => simp
  | some version =>
    rw [Option.some.injEq]
    exact Contract.check_exact_iff exact

/-! ## Result -/

/-- What a run of a request builds: the enabled flags and the items that they expose. -/
def builds (registry : Registry String) (request : Request String) :
    Except Error (NameSet String × NameSet String) :=
  (registry.run request).map fun result => (result.capabilities, result.items)

/-- Two rows of declared versions that agree on the artifacts of all contracts that a build is held
to lead to the same flags and items or to the same error. And when a build that is held to an exact
pin succeeds, it fails as soon as the pinned artifact, and no other, is declared otherwise or not at
all, with a violated contract on that artifact. -/
theorem run_declared (registry : Registry String) (constructed : registry.Constructed)
    (request : Request String) :
    (∀ first second : Artifacts String,
      (∀ contract, registry.HeldTo request contract →
        second.version? contract.artifact = first.version? contract.artifact) →
      registry.builds (request.declaring second) = registry.builds (request.declaring first)) ∧
    ∀ result, registry.run request = .ok result →
      ∀ contract, registry.HeldTo request contract → contract.mode = .exact →
        ∀ changed, request.artifacts.DifferIn contract.artifact changed →
          ∃ violated : PinError,
            registry.run (request.declaring changed) = .error (.refused (.pin violated)) ∧
              violated.artifact = .text contract.artifact := by
  have wellFormed := constructed.wellFormed
  have distinct := wellFormed.coherent.distinct
  constructor
  · intro first second agree
    rw [builds, builds, run_stages, run_stages]
    simp only [Request.declaring]
    cases resolved : registry.resolve request.features request.defaultFeatures.truthy with
    | error error => rfl
    | ok capabilities =>
      have members := ((resolve_eq_ok_iff wellFormed).1 resolved).2
      rw [ok_bind, ok_bind]
      cases parsed : BuildMode.parse request.mode with
      | error error => rfl
      | ok mode =>
        have validated : registry.validate capabilities second.declared mode =
            registry.validate capabilities first.declared mode := by
          rw [validate, validate, NameSet.sorted_text, ok_bind, ok_bind]
          refine forM_congr fun name present => validateFlag_congr ?_
          rintro flag inTable rfl contract lays
          exact agree contract ⟨mode, BuildMode.parse_eq_ok_iff.1 parsed, flag, inTable,
            (members flag.name).1 (NameSet.mem_toList.1 present), lays⟩
        simp only [ok_bind, validated]
        cases registry.validate capabilities first.declared mode with
        | error error => rfl
        | ok _ => cases registry.materialize capabilities <;> rfl
  · rintro result built contract ⟨mode, named, flag, inTable, enabled, lays⟩ exact changed differ
    obtain ⟨_, resolved, ⟨known, parsed, validated⟩, _⟩ := run_eq_ok_iff_stages.1 built
    cases (BuildMode.parse_eq_ok_iff.2 named).symm.trans parsed
    have members := ((resolve_eq_ok_iff wellFormed).1 resolved).2
    rw [validate, NameSet.sorted_text, ok_bind, forM_eq_ok_iff] at validated
    have safe : Safe (ViolationOn contract.artifact) (fun _ => True)
        (registry.validate result.capabilities changed.declared mode) := by
      rw [validate, NameSet.sorted_text, ok_bind]
      exact safe_forM fun name present => validateFlag_differIn (validated name present) differ
    -- The flag that lays the pin passes only under the version that the pin names.
    have refused : registry.validate result.capabilities changed.declared mode ≠ .ok () := by
      intro passes
      rw [validate, NameSet.sorted_text, ok_bind, forM_eq_ok_iff] at passes
      have present := NameSet.mem_toList.2 ((members flag.name).2 enabled)
      have before := (validateFlag_exact_iff distinct inTable lays exact).1
        (validated flag.name present)
      have after := (validateFlag_exact_iff distinct inTable lays exact).1
        (passes flag.name present)
      exact differ.there (after.trans before.symm)
    rcases safe_iff.1 safe with ⟨_, passes, _⟩ | ⟨error, failed, violated, rfl, about⟩
    · exact absurd passes refused
    · refine ⟨violated, ?_, about⟩
      rw [run_stages]
      simp only [Request.declaring, resolved, parsed, ok_bind, failed, error_bind]

/-- A development build of two flags that pin one artifact, one of them exactly. -/
def twiceRequest : Request String where
  features := .ofList ["serde", "alloc"]
  defaultFeatures := .bool false
  artifacts := [("derive", "1.0.139")]
  mode := .text "dev"

theorem run_declared_twicePinned :
    twicePinned.Constructed ∧
      (∀ contract, twicePinned.HeldTo twiceRequest contract →
        Artifacts.version? contract.artifact [("other", "3"), ("derive", "1.0.139")] =
          Artifacts.version? contract.artifact [("derive", "1.0.139")]) ∧
      twicePinned.builds (twiceRequest.declaring [("other", "3"), ("derive", "1.0.139")]) =
        twicePinned.builds (twiceRequest.declaring [("derive", "1.0.139")]) ∧
      (∃ result, twicePinned.run twiceRequest = .ok result) ∧
      twicePinned.HeldTo twiceRequest ⟨"derive", "1.0.139", .exact⟩ ∧
      twiceRequest.artifacts.DifferIn "derive" (twiceRequest.artifacts.declare "derive" "2") ∧
      twiceRequest.artifacts.DifferIn "derive" (twiceRequest.artifacts.withdraw "derive") ∧
      ∃ replaced withdrawn : PinError,
        twicePinned.run (twiceRequest.declaring (twiceRequest.artifacts.declare "derive" "2")) =
          .error (.refused (.pin replaced)) ∧ replaced.artifact = .text "derive" ∧
        twicePinned.run (twiceRequest.declaring (twiceRequest.artifacts.withdraw "derive")) =
          .error (.refused (.pin withdrawn)) ∧ withdrawn.artifact = .text "derive" := by
  have constructed : twicePinned.Constructed :=
    ⟨twicePinned.flags, .ok ∅, .ok [], none, by decide⟩
  obtain ⟨same, sensitive⟩ := run_declared twicePinned constructed twiceRequest
  have agree : ∀ contract, twicePinned.HeldTo twiceRequest contract →
      Artifacts.version? contract.artifact [("other", "3"), ("derive", "1.0.139")] =
        Artifacts.version? contract.artifact [("derive", "1.0.139")] := by
    rintro contract ⟨mode, _, flag, inTable, _, lays⟩
    have onDerive : ∀ flag ∈ twicePinned.flags, ∀ contract,
        flag.contract = some contract ∨ flag.devContract = some contract →
          contract.artifact = "derive" := by
      simp [twicePinned, or_imp, forall_and]
    have known : contract.artifact = "derive" := by
      refine onDerive flag inTable contract ?_
      rcases lays with ofRelease | ofDev | ⟨_, ofRelease⟩
      · exact .inl ofRelease
      · exact .inr ofDev
      · exact .inl ofRelease
    rw [known]
    decide
  have built : ∃ result, twicePinned.run twiceRequest = .ok result :=
    ⟨⟨twiceRequest, .ofList ["serde", "alloc"], ∅⟩, by decide⟩
  have held : twicePinned.HeldTo twiceRequest ⟨"derive", "1.0.139", .exact⟩ := by
    refine ⟨.dev, rfl, { name := "serde", contract := some ⟨"derive", "1.0.139", .exact⟩ }, ?_, ?_,
      .fallback rfl rfl⟩
    · simp [twicePinned]
    · exact ⟨"serde", .inl ⟨by decide, by decide⟩, .refl⟩
  have replaced : twiceRequest.artifacts.DifferIn "derive"
      (twiceRequest.artifacts.declare "derive" "2") :=
    Artifacts.differIn_declare (by decide)
  have withdrawn : twiceRequest.artifacts.DifferIn "derive"
      (twiceRequest.artifacts.withdraw "derive") :=
    Artifacts.differIn_withdraw (by decide)
  obtain ⟨result, ran⟩ := built
  obtain ⟨first, firstRan, firstAbout⟩ := sensitive result ran _ held rfl _ replaced
  obtain ⟨second, secondRan, secondAbout⟩ := sensitive result ran _ held rfl _ withdrawn
  exact ⟨constructed, agree, same _ _ agree, ⟨result, ran⟩, held, replaced, withdrawn,
    first, second, firstRan, firstAbout, secondRan, secondAbout⟩

end Registry

end FeatureResolution
