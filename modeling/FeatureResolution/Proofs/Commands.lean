import FeatureResolution.Proofs.BuildReport
import FeatureResolution.Proofs.Declarations
import FeatureResolution.Proofs.FeatureText
import FeatureResolution.Proofs.Profile

/-!
# One wish, on the command line and in a profile

A wish can be stated by the options of the commands `validate` and `surface`, or in a profile that
`build` works on. The two are read in different ways, and both come to the request that the wish
amounts to (`Wish.validated_eq`, `Wish.surfaced_eq`, `Wish.requested_eq`).

Result: a build fails and prints as the two commands do one after the other, with one exception: a
build names its mode before it runs, so a mode that cannot be written out stops it even before
unknown flags are looked for. A profile that asks for a default set that the settings leave out says
what no option says, and is not compared.
-/

namespace FeatureResolution

open CommandLine

/-! ## Stating a wish -/

namespace Wish

/-- A wish that can be stated on a command line and in a profile. -/
structure Plain (wish : Wish) : Prop where
  features : ∀ name ∈ wish.features, PlainFeature name
  distinct : (wish.artifacts.map (·.1)).Nodup
  artifacts : ∀ entry ∈ wish.artifacts, Artifacts.Declarable entry

/-- Arguments that state a wish, the rest of them as given. -/
def statedBy (wish : Wish) (rest : Arguments) : Except Error Arguments := do
  return { rest with
    features := String.intercalate "," wish.features
    noDefaultFeatures := wish.withoutDefaults
    artifacts := ← Artifacts.parse (wish.artifacts.map Artifacts.written)
    mode := wish.mode }

end Wish

/-- The path of the file in which the arguments of a command look for a profile. -/
inductive Host.NamesProfile (host : Host) (settings : Document) (arguments : Arguments) :
    String → Prop
  | byPath {path : String} : arguments.profileFile = some (.text path) →
      NamesProfile host settings arguments path
  | byName {name : String} {path : Path} : arguments.profileFile = none →
      arguments.profile = some name → host.profilePath settings (.text name) = .ok path →
      NamesProfile host settings arguments path.text

/-- A document stands in the file in which the arguments of a command look for a profile. -/
def Host.OffersProfile (host : Host) (settings : Document) (arguments : Arguments)
    (document : Document) : Prop :=
  ∃ path, host.NamesProfile settings arguments path ∧
    host.files.find? (.ofText path) = .ok (some (.file (.ok document)))

/-- The request of a command is that of the profile in the file that its arguments name. -/
theorem Host.NamesProfile.requested_eq {host : Host} {settings : Document} {arguments : Arguments}
    {path : String} (named : host.NamesProfile settings arguments path) :
    requested host arguments settings =
      host.files.loadProfile path >>= fun profile => Request.ofProfile profile settings := by
  cases named with
  | byPath byPath => simp [requested, Host.loadRequest, byPath]
  | byName noFile byName found => simp [requested, Host.loadRequest, noFile, byName, found]

/-! ## Reading a wish -/

namespace Wish

variable {wish : Wish} {title : String} {fields build : List (Scalar × Document)}
  {settings : Document} {rest arguments : Arguments}

theorem Plain.statedBy_eq (plain : wish.Plain) (rest : Arguments) :
    wish.statedBy rest = .ok { rest with
      features := String.intercalate "," wish.features
      noDefaultFeatures := wish.withoutDefaults
      artifacts := wish.artifacts
      mode := wish.mode } := by
  rw [statedBy, Artifacts.parse_written plain.distinct plain.artifacts]
  rfl

theorem defaultFeatures_eq (plain : wish.Plain) (given : wish.statedBy rest = .ok arguments)
    (hasBuild : Host.HasSection settings "build" build) :
    defaultFeatures arguments settings = .ok (wish.defaultsIn build).truthy := by
  obtain ⟨part, found, opened⟩ := hasBuild
  cases (plain.statedBy_eq rest).symm.trans given
  unfold defaultFeatures defaultsIn
  cases wish.withoutDefaults with
  | true => rfl
  | false =>
    rw [found]
    simp [Document.field?_of_opened opened]

theorem enabled_eq (plain : wish.Plain) (given : wish.statedBy rest = .ok arguments)
    (hasBuild : Host.HasSection settings "build" build) (registry : Registry String) :
    enabled arguments settings registry =
      registry.resolve (.ofList wish.features) (wish.defaultsIn build).truthy := by
  rw [enabled, defaultFeatures_eq plain given hasBuild, ok_bind]
  cases (plain.statedBy_eq rest).symm.trans given
  rw [splitFeatures_intercalate plain.features]

theorem effectiveMode_eq (plain : wish.Plain) (given : wish.statedBy rest = .ok arguments)
    (hasBuild : Host.HasSection settings "build" build) :
    effectiveMode arguments settings = .ok (wish.modeIn build) := by
  obtain ⟨part, found, opened⟩ := hasBuild
  cases (plain.statedBy_eq rest).symm.trans given
  unfold effectiveMode modeIn
  cases wish.mode with
  | some mode => rfl
  | none =>
    rw [found]
    simp [Document.field?_of_opened opened]

/-- A build finds the request that the wish in its profile amounts to. -/
theorem requested_eq (plain : wish.Plain) (stated : wish.StatedIn title fields)
    (titled : title ≠ "") (hasBuild : Host.HasSection settings "build" build) {host : Host}
    (offered : host.OffersProfile settings arguments (.map fields)) :
    requested host arguments settings =
      .ok (wish.request title (defaultsOf fields build) build) := by
  obtain ⟨path, named, stands⟩ := offered
  have loaded := stated.loadProfile_eq titled (fun name present => (plain.features name present).1)
    (fun entry present => (plain.artifacts entry present).2.2.2) stands
  rw [named.requested_eq, loaded, ok_bind, stated.ofProfile_eq hasBuild]

/-! ## The commands on requests -/

variable {defaults : Document}

theorem validated_eq (plain : wish.Plain) (given : wish.statedBy rest = .ok arguments)
    (hasBuild : Host.HasSection settings "build" build)
    (same : defaults.truthy = (wish.defaultsIn build).truthy) (registry : Registry String)
    (title : String) : validated arguments settings registry =
      validatedFor registry (wish.request title defaults build) := by
  rw [validated, enabled_eq plain given hasBuild, effectiveMode_eq plain given hasBuild, ← same]
  cases (plain.statedBy_eq rest).symm.trans given
  rfl

theorem surfaced_eq (plain : wish.Plain) (given : wish.statedBy rest = .ok arguments)
    (hasBuild : Host.HasSection settings "build" build)
    (same : defaults.truthy = (wish.defaultsIn build).truthy) (registry : Registry String)
    (title : String) : surfaced arguments settings registry =
      surfacedFor arguments settings registry (wish.request title defaults build) := by
  rw [surfaced, enabled_eq plain given hasBuild, ← same]
  rfl

/-! ## Result -/

/-- The report of a command whose arguments state a wish. -/
def reported (wish : Wish) (host : Host) (settings : Document) (registry : Registry String)
    (rest : Arguments) : Except Error Report := do
  return report host (← wish.statedBy rest) settings registry

theorem reported_validate (plain : wish.Plain) (hasBuild : Host.HasSection settings "build" build)
    (same : defaults.truthy = (wish.defaultsIn build).truthy) (host : Host)
    (registry : Registry String) (rest : Arguments) (title : String) :
    wish.reported host settings registry { rest with command := .validate } =
      .ok (.ofPieces [validatedFor registry (wish.request title defaults build)]) := by
  have given := plain.statedBy_eq { rest with command := .validate }
  rw [reported, given, ok_bind, ← validated_eq plain given hasBuild same registry title]
  rfl

theorem reported_surface (plain : wish.Plain) (hasBuild : Host.HasSection settings "build" build)
    (same : defaults.truthy = (wish.defaultsIn build).truthy) (host : Host)
    (registry : Registry String) (rest : Arguments) (title : String) :
    wish.reported host settings registry { rest with command := .surface } =
      .ok (.ofPieces [surfacedFor rest settings registry (wish.request title defaults build)]) := by
  have given := plain.statedBy_eq { rest with command := .surface }
  have exposes := surfaced_eq plain given hasBuild same registry title
  rw [reported, given, ok_bind]
  exact congrArg (fun piece => Except.ok (Report.ofPieces [piece])) exposes

/-- A build on a profile that states a wish agrees with the commands `validate` and `surface` whose
arguments state it: it completes when both complete, what it prints between the heading of its last
phase and its end is what `surface` prints, and it fails as `validate` does or else as `surface`
does. Only when its mode cannot be written out and the wished features cannot be resolved, it fails
at the mode first.

A profile overrules the settings, which a command line without the option does not, so it may say
that the default set is wanted only where the settings say so. -/
theorem build_agrees (wish : Wish) (plain : wish.Plain) (registry : Registry String)
    (settings : Document) (build : List (Scalar × Document))
    (hasBuild : Host.HasSection settings "build" build) (title : String) (titled : title ≠ "")
    (fields : List (Scalar × Document)) (stated : wish.StatedIn title fields)
    (settled : Document.lookup (.text "default_features") fields = some (.bool true) →
      (wish.defaultsIn build).truthy = true)
    (host : Host) (order : Arguments) (isBuild : order.command = .build)
    (offered : host.OffersProfile settings order (.map fields)) :
    ∃ validation exposure built,
      wish.reported host settings registry { order with command := .validate } = .ok validation ∧
      wish.reported host settings registry { order with command := .surface } = .ok exposure ∧
      report host order settings registry = built ∧
      (built.failure = none ↔ validation.failure = none ∧ exposure.failure = none) ∧
      (built.failure = none → ∃ before, built.printed =
        before ++ phaseText "3" "SURFACE" title ++ exposure.printed ++ closingText title) ∧
      ((wish.modeIn build).isWritable = true ∨ (∃ capabilities,
          registry.resolve (.ofList wish.features) (wish.defaultsIn build).truthy =
            .ok capabilities) →
        built.failure = validation.failure.or exposure.failure) ∧
      ((wish.modeIn build).isWritable = false → built.failure = some (.fault .numberTooLong)) := by
  have found := requested_eq plain stated titled hasBuild offered
  have same := stated.truthy_defaultsOf settled
  refine ⟨_, _, _, reported_validate plain hasBuild same host registry order title,
    reported_surface plain hasBuild same host registry order title, rfl, ?_, ?_, ?_, ?_⟩
  · simp only [Report.failure_ofPieces_single]
    exact completes_build_iff isBuild found
  · intro completes
    obtain ⟨before, shown, exposes, printed⟩ := printed_build_of_completes isBuild found completes
    have alone : (Report.ofPieces [.ok shown]).printed = shown := String.append_empty
    exact ⟨before, by rw [exposes, alone, printed]; rfl⟩
  · simp only [Report.failure_ofPieces_single, ← same]
    rintro (writable | ⟨capabilities, resolved⟩)
    · exact failure_build_of_isWritable isBuild found writable
    · cases writable : (wish.modeIn build).isWritable with
      | true => exact failure_build_of_isWritable isBuild found writable
      | false =>
        rw [failure_build_of_not_isWritable isBuild found writable,
          validatedFor_of_not_isWritable resolved writable]
        rfl
  · exact failure_build_of_not_isWritable isBuild found

/-- A machine with one file, a profile. -/
def offering (fields : List (Scalar × Document)) : Host where
  root := "/"
  files := { current := [], entries := [(["wish.yaml"], .file (.ok (.map fields)))] }
  environment := {}

/-- The arguments of a build on that profile. -/
def order : Arguments where
  command := .build
  manifest := none
  features := ""
  noDefaultFeatures := false
  artifacts := []
  mode := none
  format := none
  profile := none
  profileFile := some (.text "/wish.yaml")
  explain := false

theorem offersProfile_offering (fields : List (Scalar × Document)) (settings : Document) :
    (offering fields).OffersProfile settings order (.map fields) := by
  have stands : (offering fields).files.find (.ofText "/wish.yaml") =
      .found ["wish.yaml"] (.file (.ok (.map fields))) :=
    (FileTree.find_eq_follow (by decide) (by decide)).trans rfl
  exact ⟨"/wish.yaml", .byPath rfl, FileTree.find?_eq_some stands⟩

/-- Settings that say nothing but this about builds. -/
def buildSettings (build : List (Scalar × Document)) : Document :=
  .map [(.text "build", .map build), (.text "output", .map [])]

theorem hasSection_build (build : List (Scalar × Document)) :
    Host.HasSection (buildSettings build) "build" build :=
  ⟨.map build, by simp [buildSettings, Document.field, Document.opened, Document.lookup], rfl⟩

theorem hasSection_output (build : List (Scalar × Document)) :
    Host.HasSection (buildSettings build) "output" [] :=
  ⟨.map [], by simp [buildSettings, Document.field, Document.opened, Document.lookup], rfl⟩

def smallWish : Wish where
  features := ["rc", "derive"]
  artifacts := [("macros", "1.2.0")]
  mode := some .dev
  withoutDefaults := true

theorem plain_smallWish : smallWish.Plain :=
  ⟨by decide, by decide, by decide⟩

theorem build_agrees_smallWish :
    smallWish.Plain ∧ Host.HasSection (buildSettings []) "build" [] ∧
      smallWish.StatedIn "wish" (smallWish.profile "wish") ∧
      (Document.lookup (.text "default_features") (smallWish.profile "wish") =
        some (.bool true) → (smallWish.defaultsIn []).truthy = true) ∧
      (offering (smallWish.profile "wish")).OffersProfile (buildSettings []) order
        (.map (smallWish.profile "wish")) ∧
      ∃ exposure built,
        smallWish.reported (offering (smallWish.profile "wish")) (buildSettings [])
          Registry.smallRegistry { order with command := .surface } = .ok exposure ∧
        report (offering (smallWish.profile "wish")) order (buildSettings [])
          Registry.smallRegistry = built ∧
        built.failure = none ∧ exposure.printed = "Derive\nString\nVec\n" ∧
        ∃ before, built.printed =
          before ++ phaseText "3" "SURFACE" "wish" ++ exposure.printed ++ closingText "wish" := by
  have stated := statedIn_profile smallWish "wish"
  have hasBuild := hasSection_build []
  have settled : Document.lookup (.text "default_features") (smallWish.profile "wish") =
      some (.bool true) → (smallWish.defaultsIn []).truthy = true := by decide
  have offered := offersProfile_offering (smallWish.profile "wish") (buildSettings [])
  obtain ⟨validation, exposure, built, validates, exposes, builds, completes, printed, _, _⟩ :=
    build_agrees smallWish plain_smallWish Registry.smallRegistry (buildSettings []) [] hasBuild
      "wish" (by decide) _ stated settled _ _ rfl offered
  have valid : validatedFor Registry.smallRegistry
      (smallWish.request "wish" (smallWish.defaultsIn []) []) =
      .ok "[OK] Artifact pins satisfied (dev)\n" := by decide
  have shown : surfacedFor order (buildSettings []) Registry.smallRegistry
      (smallWish.request "wish" (smallWish.defaultsIn []) []) =
      .ok "Derive\nString\nVec\n" := by decide
  have validated :=
    validates.symm.trans (reported_validate plain_smallWish hasBuild rfl _ _ _ "wish")
  have exposed := exposes.symm.trans (reported_surface plain_smallWish hasBuild rfl _ _ _ "wish")
  rw [valid] at validated
  rw [shown] at exposed
  cases validated
  cases exposed
  have complete := completes.2 ⟨rfl, rfl⟩
  exact ⟨plain_smallWish, hasBuild, stated, settled, offered, _, built, exposes, builds, complete,
    rfl, printed complete⟩

/-! ## Where the two disagree -/

/-- On a wish that is stated both ways a build fails otherwise than the two commands in a row. -/
def Disagrees (wish : Wish) (fields build : List (Scalar × Document)) : Prop :=
  wish.Plain ∧ wish.StatedIn "wish" fields ∧
    Host.HasSection (buildSettings build) "build" build ∧
    Host.HasSection (buildSettings build) "output" [] ∧
    (offering fields).OffersProfile (buildSettings build) order (.map fields) ∧
    ∃ validation exposure built,
      wish.reported (offering fields) (buildSettings build) Registry.smallRegistry
        { order with command := .validate } = .ok validation ∧
      wish.reported (offering fields) (buildSettings build) Registry.smallRegistry
        { order with command := .surface } = .ok exposure ∧
      report (offering fields) order (buildSettings build) Registry.smallRegistry = built ∧
      built.failure ≠ validation.failure.or exposure.failure

theorem disagrees_of_failures {wish : Wish} {fields build : List (Scalar × Document)}
    (plain : wish.Plain) (stated : wish.StatedIn "wish" fields)
    (differ : (report (offering fields) order (buildSettings build)
        Registry.smallRegistry).failure ≠
      (failureOf (validatedFor Registry.smallRegistry
        (wish.request "wish" (wish.defaultsIn build) build))).or
      (failureOf (surfacedFor order (buildSettings build) Registry.smallRegistry
        (wish.request "wish" (wish.defaultsIn build) build)))) :
    wish.Disagrees fields build := by
  have hasBuild := hasSection_build build
  refine ⟨plain, stated, hasBuild, hasSection_output build, offersProfile_offering _ _, _, _, _,
    reported_validate plain hasBuild rfl _ _ _ "wish",
    reported_surface plain hasBuild rfl _ _ _ "wish", rfl, ?_⟩
  simpa only [Report.failure_ofPieces_single] using differ

/-- A wish for a feature that there is not. -/
def unknownWish : Wish where
  features := ["nope"]
  artifacts := []
  mode := none
  withoutDefaults := false

/-- A section on builds that gives the least number that is too long to be written out as the
mode. -/
def longMode : List (Scalar × Document) :=
  [(.text "mode", .int (Nat.pow 10 Text.digitLimit : Nat))]

theorem isWritable_int (value : Nat) :
    (Document.int value).isWritable = decide (value < Nat.pow 10 Text.digitLimit) :=
  rfl

theorem not_isWritable_longMode : (unknownWish.modeIn longMode).isWritable = false := by
  have mode : unknownWish.modeIn longMode = .int (Nat.pow 10 Text.digitLimit : Nat) := rfl
  rw [mode, isWritable_int]
  exact decide_eq_false (Nat.lt_irrefl _)

/-- A wish for a feature that excludes one of the default set. -/
def tinyWish : Wish where
  features := ["tiny"]
  artifacts := []
  mode := none
  withoutDefaults := false

/-- The profile of that wish, which asks for the default set. -/
def tinyFields : List (Scalar × Document) :=
  tinyWish.profile "wish" ++ [(.text "default_features", .bool true)]

/-- A mode that cannot be written out stops a build before it comes to the unknown flag, and a
profile can ask for a default set that the settings leave out. -/
theorem build_disagrees :
    unknownWish.Disagrees (unknownWish.profile "wish") longMode ∧
      tinyWish.Disagrees tinyFields [(.text "default_features", .bool false)] := by
  have plainUnknown : unknownWish.Plain := ⟨by decide, by decide, by decide⟩
  have plainTiny : tinyWish.Plain := ⟨by decide, by decide, by decide⟩
  have statedUnknown := statedIn_profile unknownWish "wish"
  have statedTiny : tinyWish.StatedIn "wish" tinyFields := by
    constructor <;> simp [tinyFields, tinyWish, profile, Document.lookup]
  constructor
  · have found := requested_eq plainUnknown statedUnknown (by decide) (hasSection_build longMode)
      (offersProfile_offering _ _)
    have unknown : Registry.smallRegistry.resolve (.ofList ["nope"]) true =
        .error (.unknownFlag (.text "nope")) := by decide
    have refused : validatedFor Registry.smallRegistry
        (unknownWish.request "wish" (unknownWish.defaultsIn longMode) longMode) =
        .error (.unknownFlag (.text "nope")) :=
      congrArg (· >>= _) unknown
    refine disagrees_of_failures plainUnknown statedUnknown ?_
    rw [failure_build_of_not_isWritable rfl found not_isWritable_longMode, refused]
    simp [failureOf]
  · have found := requested_eq plainTiny statedTiny (by decide)
      (hasSection_build [(.text "default_features", .bool false)]) (offersProfile_offering _ _)
    refine disagrees_of_failures plainTiny statedTiny ?_
    rw [failure_build_of_isWritable rfl found rfl]
    decide

end Wish

end FeatureResolution
