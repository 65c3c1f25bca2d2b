import FeatureResolution.Proofs.Commands
import FeatureResolution.Proofs.Safety
import FeatureResolution.Proofs.SharedRegistry

/-!
# What a run prints when it fails

A command that has one piece to print prints nothing when it fails. A build prints as it goes, but
the only step after its heading that can be refused is the run of the request: a mode that cannot be
written out, a format that is none and whatever else the settings may hold amount to faults
(`exposed_safe`), and listing what is enabled and its contracts cannot fail.

Result: a run that ends with status 1 has printed nothing, or it is a build that has printed its
first block and no more (`PrintedBefore`); a run that ends well has no diagnostics, and a build that
does so has printed its last block at the end.
-/

namespace FeatureResolution.CommandLine

variable {host : Host} {arguments : Arguments} {settings : Document} {registry : Registry String}

/-! ## Faults of settings -/

/-- An error that is no finding about flags and pins. -/
def IsFault (error : Error) : Prop :=
  ∃ cause, error = .fault cause

/-- What can only end in a fault is not refused. -/
theorem not_refused_of_safe {α : Type} {holds : α → Prop} {result : Except Error α}
    (safe : Safe IsFault holds result) (finding : Refusal) :
    failureOf result ≠ some (.refused finding) := by
  intro refused
  cases result with
  | ok value => cases refused
  | error error =>
    cases refused
    obtain ⟨cause, impossible⟩ := safe
    cases impossible

theorem field_safe (key : String) (document : Document) :
    Safe IsFault (fun _ => True) (document.field key) := by
  unfold Document.field
  split
  · split
    · trivial
    · exact ⟨_, rfl⟩
  · exact ⟨_, rfl⟩

theorem field?_safe (key : String) (document : Document) :
    Safe IsFault (fun _ => True) (document.field? key) := by
  unfold Document.field?
  split
  · trivial
  · exact ⟨_, rfl⟩

theorem parse_safe (format : Document) : Safe IsFault (fun _ => True) (Format.parse format) := by
  unfold Format.parse
  extract_lets named
  clear_value named
  cases named with
  | some known => trivial
  | none => exact ⟨_, rfl⟩

theorem effectiveFormat_safe (arguments : Arguments) (settings : Document) :
    Safe IsFault (fun _ => True) (effectiveFormat arguments settings) := by
  unfold effectiveFormat
  split
  · trivial
  · refine (field_safe "output" settings).bind fun output _ => ?_
    exact (field?_safe "format" output).bind fun format _ => parse_safe _

theorem modeLine_safe (request : Request String) :
    Safe IsFault (fun _ => True) (modeLine request) := by
  have named : Safe IsFault (fun _ => True) (needWritable request.mode.isWritable) := by
    unfold needWritable
    split
    · trivial
    · exact ⟨_, rfl⟩
  exact named.bind fun _ _ => trivial

/-- Texts can be shown in every format. -/
theorem render_safe (capabilities : NameSet String) (items : Option (List String))
    (format : Format) :
    Safe IsFault (fun _ => True) (registry.render capabilities items format) := by
  cases format <;> simp [Registry.render, Safe]

theorem exposed_safe (result : BuildResult String) :
    Safe IsFault (fun _ => True) (exposed arguments settings registry result) := by
  refine (effectiveFormat_safe arguments settings).bind fun format _ => ?_
  exact (render_safe result.capabilities (some result.items.toList) format).bind fun _ _ => trivial

/-! ## Reports that end with a finding -/

theorem printed_of_failure_single {piece : Except Error String} {error : Error}
    (fails : (Report.ofPieces [piece]).failure = some error) :
    (Report.ofPieces [piece]).printed = "" := by
  cases piece with
  | ok text => cases fails
  | error cause => rfl

/-- What a command that ends with a finding has printed, given the registry that it found: nothing,
or the first block of a build whose request is refused. -/
inductive PrintedBefore (host : Host) (arguments : Arguments) (settings : Document)
    (found : Except Error (Registry String)) (finding : Refusal) : String → Prop
  | nothing : PrintedBefore host arguments settings found finding ""
  | heading {registry : Registry String} {request : Request String} :
      arguments.command = .build → found = .ok registry →
      requested host arguments settings = .ok request → request.mode.isWritable = true →
      registry.run request = .error (.refused finding) →
      PrintedBefore host arguments settings found finding (headingText registry request)

/-- A build whose request does not run has printed its first block. -/
theorem printed_build_of_error {request : Request String} {error : Error}
    (isBuild : arguments.command = .build)
    (found : requested host arguments settings = .ok request)
    (writable : request.mode.isWritable = true) (failed : registry.run request = .error error) :
    (report host arguments settings registry).printed = headingText registry request := by
  obtain ⟨named, modeNamed⟩ := exists_modeLine_iff.2 writable
  rw [← headingText_eq modeNamed]
  simp [report, isBuild, built, found, modeNamed, failed, Report.ofExcept, Report.ofPieces]

/-- A build is refused before its first block or when its request runs. -/
theorem printedBefore_build (isBuild : arguments.command = .build) {finding : Refusal}
    (refused : (report host arguments settings registry).failure = some (.refused finding)) :
    PrintedBefore host arguments settings (.ok registry) finding
      (report host arguments settings registry).printed := by
  cases found : requested host arguments settings with
  | error cause =>
    have nothing : (report host arguments settings registry).printed = "" := by
      simp [report, isBuild, built, found, Report.ofExcept, Report.failed]
    rw [nothing]
    exact .nothing
  | ok request =>
    rw [failure_build isBuild found] at refused
    cases writable : modeLine request with
    | error cause =>
      have faulty := modeLine_safe request
      rw [writable] at faulty refused
      rw [failureOf, Option.some_or] at refused
      exact absurd refused (not_refused_of_safe faulty finding)
    | ok named =>
      rw [writable, failureOf, Option.none_or] at refused
      cases ran : registry.run request with
      | ok result =>
        rw [ran, ok_bind] at refused
        exact absurd refused (not_refused_of_safe (exposed_safe result) finding)
      | error cause =>
        rw [ran] at refused
        cases refused
        have isWritable := exists_modeLine_iff.1 ⟨named, writable⟩
        rw [printed_build_of_error isBuild found isWritable ran]
        exact .heading isBuild rfl found isWritable ran

/-- A command other than a build has one piece to print. -/
theorem report_eq_single (host : Host) (settings : Document) (registry : Registry String)
    (notBuild : arguments.command ≠ .build) :
    ∃ piece, report host arguments settings registry = .ofPieces [piece] := by
  unfold report
  split
  case h_4 isBuild => exact absurd isBuild notBuild
  all_goals exact ⟨_, rfl⟩

theorem printedBefore_reportOn {found : Except Error (Registry String)} {finding : Refusal}
    (refused : (Use.reportOn host arguments settings found).failure = some (.refused finding)) :
    PrintedBefore host arguments settings found finding
      (Use.reportOn host arguments settings found).printed := by
  cases found with
  | error error => exact .nothing
  | ok registry =>
    change (report host arguments settings registry).failure = _ at refused
    by_cases isBuild : arguments.command = .build
    · exact printedBefore_build isBuild refused
    · obtain ⟨piece, single⟩ := report_eq_single host settings registry isBuild
      rw [Use.reportOn, single, printed_of_failure_single (single ▸ refused)]
      exact .nothing

/-! ## Reports that end well -/

/-- A build that ends well has printed its last block at the end. -/
theorem printed_reportOn_of_completes (isBuild : arguments.command = .build)
    {found : Except Error (Registry String)}
    (completes : (Use.reportOn host arguments settings found).failure = none) :
    ∃ request before, requested host arguments settings = .ok request ∧
      (Use.reportOn host arguments settings found).printed =
        before ++ closingText request.name.shown := by
  cases found with
  | error error => cases completes
  | ok registry =>
    change (report host arguments settings registry).failure = _ at completes
    cases isFound : requested host arguments settings with
    | error error =>
      simp [report, isBuild, built, isFound, Report.ofExcept, Report.failed] at completes
    | ok request =>
      obtain ⟨before, shown, _, printed⟩ := printed_build_of_completes isBuild isFound completes
      exact ⟨request, _, rfl, printed⟩

/-! ## Runs -/

/-- A run whose arguments can be read reports what its command comes to, unless there are no
settings. -/
theorem run_fst_of_parse {words : List String} (parsed : Arguments.parse words = .ok arguments)
    (shared : SharedRegistry) : (run host shared words).1 =
      match host.settings with
      | .error error => ⟨"", "", .escaped error⟩
      | .ok settings =>
        .ofReport
          (Use.reportOn host arguments settings (findRegistry host shared arguments).1) := by
  simp only [run, parsed, execute]
  cases host.settings with
  | error error => rfl
  | ok settings =>
    obtain ⟨found, kept⟩ := findRegistry host shared arguments
    cases found with
    | ok registry => rfl
    | error error => rfl

theorem ofReport_status_one {report : Report}
    (failed : (Outcome.ofReport report).ending = .status 1) :
    ∃ finding, report.failure = some (.refused finding) ∧
      Outcome.ofReport report =
        ⟨report.printed, "ERROR: " ++ finding.message ++ "\n", .status 1⟩ := by
  unfold Outcome.ofReport at failed ⊢
  split at failed
  · cases failed
  · next finding refused => exact ⟨finding, refused, rfl⟩
  · cases failed

theorem ofReport_status_zero {report : Report}
    (ended : (Outcome.ofReport report).ending = .status 0) :
    report.failure = none ∧ Outcome.ofReport report = ⟨report.printed, "", .status 0⟩ := by
  unfold Outcome.ofReport at ended ⊢
  split at ended
  · next completes => exact ⟨completes, rfl⟩
  · cases ended
  · cases ended

/-! ## Result -/

/-- On any machine, whatever the process holds, a run whose arguments can be read and that ends with
status 1 ends with a finding of its command: the diagnostics are one line with its message, and
nothing was printed, apart from the first block of a build whose request is refused. A run that ends
well has no diagnostics, and a build that does so has printed its last block at the end. -/
theorem run_output (host : Host) (shared : SharedRegistry) (words : List String)
    (arguments : Arguments) (parsed : Arguments.parse words = .ok arguments) :
    ((run host shared words).1.ending = .status 1 → ∃ settings finding,
      host.settings = .ok settings ∧
      (Use.reportOn host arguments settings (findRegistry host shared arguments).1).failure =
        some (.refused finding) ∧
      (run host shared words).1.diagnostics = "ERROR: " ++ finding.message ++ "\n" ∧
      PrintedBefore host arguments settings (findRegistry host shared arguments).1 finding
        (run host shared words).1.printed) ∧
    ((run host shared words).1.ending = .status 0 →
      (run host shared words).1.diagnostics = "" ∧
      (arguments.command = .build → ∃ settings request before, host.settings = .ok settings ∧
        requested host arguments settings = .ok request ∧
        (run host shared words).1.printed = before ++ closingText request.name.shown)) := by
  rw [run_fst_of_parse parsed]
  cases loaded : host.settings with
  | error error => exact ⟨nofun, nofun⟩
  | ok settings =>
    dsimp only
    constructor
    · intro failed
      obtain ⟨finding, refused, outcome⟩ := ofReport_status_one failed
      rw [outcome]
      exact ⟨settings, finding, rfl, refused, rfl, printedBefore_reportOn refused⟩
    · intro ended
      obtain ⟨completes, outcome⟩ := ofReport_status_zero ended
      rw [outcome]
      refine ⟨rfl, fun isBuild => ?_⟩
      obtain ⟨request, before, found, printed⟩ := printed_reportOn_of_completes isBuild completes
      exact ⟨settings, request, before, rfl, found, printed⟩

/-- Without a settings file the built-in settings are in force. -/
theorem settings_offering (fields : List (Scalar × Document)) :
    (Wish.offering fields).settings = .ok (Wish.offering fields).defaultSettings := by
  have place : (Path.ofText "/").join (.ofText Installation.settingsFile) =
      ⟨.root, ["config", "flagpin-config.yaml"]⟩ := by decide
  have path : (Wish.offering fields).settingsPath = ⟨.root, ["config", "flagpin-config.yaml"]⟩ :=
    place
  have absent : (Wish.offering fields).files.find (Wish.offering fields).settingsPath =
      .missing := by
    rw [path]
    exact (FileTree.find_eq_follow (by decide) (by decide)).trans rfl
  exact Host.settings_of_missing absent rfl

theorem hasSection_defaultSettings (host : Host) :
    Host.HasSection host.defaultSettings "build"
      [(.text "mode", .text "release"), (.text "default_features", .bool true)] :=
  ⟨.map [(.text "mode", .text "release"), (.text "default_features", .bool true)], rfl, rfl⟩

/-- A machine with a profile that asks for a feature that there is not, and no settings file. -/
def unknownHost : Host :=
  Wish.offering (Wish.unknownWish.profile "wish")

/-- What that profile comes to. -/
def unknownRequest : Request String where
  name := .text "wish"
  features := .ofList ["nope"]

theorem requested_unknownHost :
    requested unknownHost Wish.order unknownHost.defaultSettings = .ok unknownRequest :=
  Wish.requested_eq ⟨by decide, by decide, by decide⟩
    (Wish.statedIn_profile Wish.unknownWish "wish") (by decide)
    (hasSection_defaultSettings unknownHost) (Wish.offersProfile_offering _ _)

/-- A machine with a profile of which something comes, and no settings file. -/
def smallHost : Host :=
  Wish.offering (Wish.smallWish.profile "wish")

/-- What that profile comes to. -/
def smallRequest : Request String where
  name := .text "wish"
  features := .ofList ["rc", "derive"]
  defaultFeatures := .bool false
  artifacts := [("macros", "1.2.0")]
  mode := .text "dev"

theorem requested_smallHost :
    requested smallHost Wish.order smallHost.defaultSettings = .ok smallRequest :=
  Wish.requested_eq Wish.plain_smallWish (Wish.statedIn_profile Wish.smallWish "wish") (by decide)
    (hasSection_defaultSettings smallHost) (Wish.offersProfile_offering _ _)

theorem completes_smallHost : (report smallHost Wish.order smallHost.defaultSettings
    Registry.smallRegistry).failure = none := by
  have valid : validatedFor Registry.smallRegistry smallRequest =
      .ok "[OK] Artifact pins satisfied (dev)\n" := by decide
  have shown : surfacedFor Wish.order smallHost.defaultSettings Registry.smallRegistry
      smallRequest = .ok "Derive\nString\nVec\n" := by decide
  rw [completes_build_iff rfl requested_smallHost, valid, shown]
  exact ⟨rfl, rfl⟩

theorem parse_order :
    Arguments.parse ["build", "--profile-file", "/wish.yaml"] = .ok Wish.order := by decide

/-- A build on the profile of a machine that has no other file reports on the built-in settings. -/
theorem run_offering (fields : List (Scalar × Document)) (registry : Registry String) :
    (run (Wish.offering fields) (some registry) ["build", "--profile-file", "/wish.yaml"]).1 =
      .ofReport (report (Wish.offering fields) Wish.order (Wish.offering fields).defaultSettings
        registry) := by
  rw [run_fst_of_parse parse_order, settings_offering]
  rfl

/-- On one of these machines a build is refused after its first block, and on the other it comes to
its end. -/
theorem run_output_offering :
    Arguments.parse ["build", "--profile-file", "/wish.yaml"] = .ok Wish.order ∧
      (∃ outcome settings finding,
        (run unknownHost (some Registry.smallRegistry)
          ["build", "--profile-file", "/wish.yaml"]).1 = outcome ∧
        outcome.ending = .status 1 ∧ outcome.diagnostics = "ERROR: " ++ finding.message ++ "\n" ∧
        PrintedBefore unknownHost Wish.order settings (.ok Registry.smallRegistry) finding
          outcome.printed ∧
        outcome.printed = rule ++ "BUILD (WISH)\n" ++ rule ++
          "Registry: <FlagRegistry anonymous: 5 flags>\n" ++ "Requested: nope\n" ++
          "Default features: on, Mode: release\n") ∧
      ∃ outcome before,
        (run smallHost (some Registry.smallRegistry)
          ["build", "--profile-file", "/wish.yaml"]).1 = outcome ∧
        outcome.ending = .status 0 ∧ outcome.diagnostics = "" ∧
        outcome.printed = before ++ (rule ++ "BUILD (WISH) COMPLETE\n" ++ rule) := by
  refine ⟨parse_order, ?_, ?_⟩
  · have unknown : Registry.smallRegistry.run unknownRequest =
        .error (.unknownFlag (.text "nope")) := by
      decide
    have refused : (report unknownHost Wish.order unknownHost.defaultSettings
        Registry.smallRegistry).failure = some (.unknownFlag (.text "nope")) := by
      rw [failure_build rfl requested_unknownHost, unknown]
      rfl
    have outcome : (run unknownHost (some Registry.smallRegistry)
        ["build", "--profile-file", "/wish.yaml"]).1 =
          .ofReport (report unknownHost Wish.order unknownHost.defaultSettings _) :=
      run_offering _ _
    have ended : (run unknownHost (some Registry.smallRegistry)
        ["build", "--profile-file", "/wish.yaml"]).1.ending = .status 1 := by
      rw [outcome, Outcome.ofReport, refused]
    obtain ⟨settings, finding, _, _, diagnostics, printed⟩ :=
      (run_output unknownHost (some Registry.smallRegistry) _ _ parse_order).1 ended
    refine ⟨_, settings, finding, rfl, ended, diagnostics, printed, ?_⟩
    rw [outcome, Outcome.ofReport, refused]
    dsimp only
    rw [printed_build_of_error rfl requested_unknownHost rfl unknown]
    decide +kernel
  · have outcome : (run smallHost (some Registry.smallRegistry)
        ["build", "--profile-file", "/wish.yaml"]).1 =
          .ofReport (report smallHost Wish.order smallHost.defaultSettings _) :=
      run_offering _ _
    have ended : (run smallHost (some Registry.smallRegistry)
        ["build", "--profile-file", "/wish.yaml"]).1.ending = .status 0 := by
      rw [outcome, Outcome.ofReport, completes_smallHost]
    obtain ⟨diagnostics, built⟩ :=
      (run_output smallHost (some Registry.smallRegistry) _ _ parse_order).2 ended
    obtain ⟨settings, request, before, loaded, found, printed⟩ := built rfl
    cases loaded.symm.trans (settings_offering _)
    cases found.symm.trans requested_smallHost
    have closing : closingText smallRequest.name.shown =
        rule ++ "BUILD (WISH) COMPLETE\n" ++ rule := by
      decide +kernel
    exact ⟨_, before, rfl, ended, diagnostics, closing ▸ printed⟩

end FeatureResolution.CommandLine
