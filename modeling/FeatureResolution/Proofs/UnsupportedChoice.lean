import FeatureResolution.Proofs.CommandWords
import FeatureResolution.Proofs.ProfileMode
import FeatureResolution.Proofs.RunOutput

/-!
# Modes and formats that there are not

The build mode and the output format come to a command on three ways, which are guarded in three
ways.

* On the command line a value that is not offered is a misuse of any command.
* In a profile a mode that there is not breaks the schema, so the profile is a bad manifest.
* In the settings nothing is checked. A command that comes to such a value (`Consults`) ends in a
  fault, unless what it does before is refused: the fault is no finding, and it escapes.

Result: `run_unsupported`. So a run on an unsupported value is reported on the first two ways,
unless the wording of a bad profile has to quote a number that is too long to be written out, and on
the third way only by accident (`run_unsupported_escapes`).
-/

namespace FeatureResolution

/-! ## Unsupported values -/

/-- A value is the name of no output format. -/
def Format.Unsupported (value : Document) : Prop :=
  ∀ format : Format, value ≠ .text format.name

theorem Format.ofName?_eq_some {name : String} {format : Format}
    (known : ofName? name = some format) : name = format.name := by
  have named := List.find?_some known
  simpa [eq_comm] using named

theorem Format.parse_name (format : Format) : parse (.text format.name) = .ok format := by
  cases format <;> rfl

namespace CommandLine

/-- What can be chosen on the command line, in a profile or in the settings. -/
inductive Choice where
  | mode
  | format
deriving DecidableEq, Repr

namespace Choice

/-- A value is none of those that can be chosen. -/
def Unsupported : Choice → Document → Prop
  | .mode => BuildMode.Unsupported
  | .format => Format.Unsupported

/-- The fault that an unsupported value ends in; it quotes the value, if this can be written out. -/
def fault : Choice → Document → Fault
  | .mode, value => if value.isWritable then .unknownBuildMode value else .numberTooLong
  | .format, value => if value.isWritable then .unknownFormat value else .numberTooLong

theorem parse_mode {value : Document} (unsupported : Choice.mode.Unsupported value) :
    BuildMode.parse value = .error (.fault (Choice.mode.fault value)) :=
  BuildMode.parse_eq_error_iff.2 ⟨unsupported .release, unsupported .dev, rfl⟩

theorem parse_format {value : Document} (unsupported : Choice.format.Unsupported value) :
    Format.parse value = .error (.fault (Choice.format.fault value)) := by
  unfold Format.parse
  extract_lets named
  have unknown : named = none := by
    rw [Option.eq_none_iff_forall_ne_some]
    intro format known
    simp only [named] at known
    split at known
    · exact unsupported format (congrArg Document.text (Format.ofName?_eq_some known))
    · cases known
  rw [unknown]
  rfl

end Choice

variable {host : Host} {arguments : Arguments} {settings : Document} {registry : Registry String}
  {choice : Choice} {value : Document} {before : Option Error}

/-! ## Where commands come to a choice -/

/-- The format that the command line or else the settings state. -/
def statedFormat (arguments : Arguments) (settings : Document) : Except Error Document :=
  match arguments.format with
  | some format => .ok (.text format.name)
  | none => do return (← (← settings.field "output").field? "format").getD (.text "list")

theorem effectiveFormat_eq (arguments : Arguments) (settings : Document) :
    effectiveFormat arguments settings = statedFormat arguments settings >>= Format.parse := by
  unfold effectiveFormat statedFormat
  cases arguments.format with
  | some format => exact (Format.parse_name format).symm
  | none => simp only [bind_assoc, pure_bind]

/-- A command comes to a value as the mode or the format of its work; what it does before may fail.
The commands `resolve` and `check-release` come to neither, and `flags` only to a format that the
command line offers. -/
inductive Consults (host : Host) (arguments : Arguments) (settings : Document)
    (registry : Registry String) : Choice → Document → Option Error → Prop
  | validate {mode : Document} : arguments.command = .validate →
      effectiveMode arguments settings = .ok mode →
      Consults host arguments settings registry .mode mode
        (failureOf (enabled arguments settings registry))
  | flags {request : Request String} : arguments.command = .flags →
      requested host arguments settings = .ok request →
      Consults host arguments settings registry .mode request.mode
        (failureOf (registry.resolve request.features request.defaultFeatures.truthy))
  | build {request : Request String} : arguments.command = .build →
      requested host arguments settings = .ok request →
      Consults host arguments settings registry .mode request.mode
        ((failureOf (modeLine request)).or
          (failureOf (registry.resolve request.features request.defaultFeatures.truthy)))
  | surface {format : Document} : arguments.command = .surface →
      statedFormat arguments settings = .ok format →
      Consults host arguments settings registry .format format
        (failureOf (enabled arguments settings registry >>= registry.materialize))
  | surfaceOfBuild {request : Request String} {format : Document} : arguments.command = .build →
      requested host arguments settings = .ok request →
      statedFormat arguments settings = .ok format →
      Consults host arguments settings registry .format format
        ((failureOf (modeLine request)).or (failureOf (registry.run request)))

theorem failureOf_bind_fault {α β : Type} {first : Except Error α} {next : α → Except Error β}
    {cause : Fault} (ends : ∀ value, next value = .error (.fault cause)) :
    failureOf (first >>= next) = some ((failureOf first).getD (.fault cause)) := by
  cases first with
  | error error => rfl
  | ok value => exact congrArg failureOf (ends value)

theorem run_eq_of_unsupported {request : Request String}
    (unsupported : Choice.mode.Unsupported request.mode) :
    registry.run request = registry.resolve request.features request.defaultFeatures.truthy >>=
      fun _ => .error (.fault (Choice.mode.fault request.mode)) := by
  rw [Registry.run_stages]
  refine bind_congr fun capabilities => ?_
  rw [Choice.parse_mode unsupported, error_bind]

theorem exposed_of_unsupported {format : Document}
    (stated : statedFormat arguments settings = .ok format)
    (unsupported : Choice.format.Unsupported format) (result : BuildResult String) :
    exposed arguments settings registry result =
      .error (.fault (Choice.format.fault format)) := by
  rw [exposed, effectiveFormat_eq, stated, ok_bind, Choice.parse_format unsupported, error_bind]

theorem or_getD {first second : Option Error} {error : Error} :
    first.or (some (second.getD error)) = some ((first.or second).getD error) := by
  cases first <;> rfl

/-- A command that comes to an unsupported value fails as what it does before, or at the value. -/
theorem Consults.failure_eq
    (consults : Consults host arguments settings registry choice value before)
    (unsupported : choice.Unsupported value) :
    (report host arguments settings registry).failure =
      some (before.getD (.fault (choice.fault value))) := by
  cases consults with
  | validate isValidate stated =>
    rw [report, isValidate]
    dsimp only
    rw [Report.failure_ofPieces_single]
    refine failureOf_bind_fault fun capabilities => ?_
    rw [stated, ok_bind, Choice.parse_mode unsupported, error_bind]
  | flags isFlags found =>
    rw [report, isFlags]
    dsimp only
    rw [Report.failure_ofPieces_single, flagged, found, ok_bind, run_eq_of_unsupported unsupported,
      bind_assoc]
    exact failureOf_bind_fault fun _ => rfl
  | build isBuild found =>
    rw [failure_build isBuild found, run_eq_of_unsupported unsupported, bind_assoc,
      failureOf_bind_fault fun _ => error_bind _ _, or_getD]
  | surface isSurface stated =>
    rw [report, isSurface]
    dsimp only
    rw [Report.failure_ofPieces_single, surfaced]
    cases enabled arguments settings registry with
    | error error => rfl
    | ok capabilities =>
      simp only [ok_bind]
      refine failureOf_bind_fault fun items => ?_
      rw [effectiveFormat_eq, stated, ok_bind, Choice.parse_format unsupported, error_bind]
  | surfaceOfBuild isBuild found stated =>
    rw [failure_build isBuild found,
      failureOf_bind_fault (exposed_of_unsupported stated unsupported), or_getD]

/-! ## Profiles -/

/-- A command on a profile with a mode that there is not does not find its request. -/
theorem requested_unsupported {document : Document}
    (offered : host.OffersProfile settings arguments document)
    (given : document.field? "mode" = .ok (some value))
    (unsupported : BuildMode.Unsupported value.opened) :
    (∀ violation ∈ Schema.profile.violations document, violation.Writable) ∧
        (∃ path detail, requested host arguments settings = .error (.badManifest path detail)) ∨
      (∃ violation ∈ Schema.profile.violations document, ¬ violation.Writable) ∧
        requested host arguments settings = .error (.fault .numberTooLong) := by
  obtain ⟨path, named, stands⟩ := offered
  rw [named.requested_eq]
  rcases FileTree.loadProfile_unsupported stands given unsupported with
    ⟨writable, detail, refused⟩ | ⟨unwritable, failed⟩
  · rw [refused]
    exact .inl ⟨writable, path, detail, rfl⟩
  · rw [failed]
    exact .inr ⟨unwritable, rfl⟩

theorem failure_of_requested {error : Error} (needsProfile : arguments.command.needsProfile = true)
    (failed : requested host arguments settings = .error error) :
    report host arguments settings registry = .failed error := by
  unfold report
  cases command : arguments.command with
  | build => simp [built, failed, Report.ofExcept]
  | flags => simp [flagged, failed, Report.ofPieces, Report.failed]
  | _ => simp [command, Command.needsProfile] at needsProfile

/-! ## Runs -/

/-- A run ends with an error: with a line on a finding, and at a fault as it is. -/
def Outcome.EndsWith (outcome : Outcome) : Error → Prop
  | .refused finding =>
    outcome.ending = .status 1 ∧ outcome.diagnostics = line ("ERROR: " ++ finding.message)
  | .fault cause => outcome.ending = .escaped (.fault cause) ∧ outcome.diagnostics = ""

theorem Outcome.endsWith_ofReport {report : Report} {error : Error}
    (failed : report.failure = some error) : (ofReport report).EndsWith error := by
  rw [ofReport, failed]
  cases error with
  | refused finding => exact ⟨rfl, rfl⟩
  | fault cause => exact ⟨rfl, rfl⟩

theorem endsWith_of_failure {words : List String} {error : Error} {shared : SharedRegistry}
    (parsed : Arguments.parse words = .ok arguments) (loaded : host.settings = .ok settings)
    (found : (findRegistry host shared arguments).1 = .ok registry)
    (failed : (report host arguments settings registry).failure = some error) :
    (run host shared words).1.EndsWith error := by
  rw [run_fst_of_parse parsed, loaded, found]
  exact Outcome.endsWith_ofReport failed

/-! ## Machines with unsupported values -/

/-- The fields of a profile with a mode. -/
def profileWith (mode : Document) : List (Scalar × Document) :=
  [(.text "name", .text "wish"), (.text "mode", mode)]

/-- Settings with a mode and a format that there are not. -/
def unsupportedSettings : Document :=
  .map [(.text "build", .map [(.text "mode", .text "beta")]),
    (.text "output", .map [(.text "format", .text "xml")])]

/-- A machine with one file, these settings. -/
def unsupportedHost : Host where
  root := "/"
  files := { current := [], entries := [(["settings.yaml"], .file (.ok unsupportedSettings))] }
  environment := { config := some "/settings.yaml" }

/-- What they come to over the built-in settings. -/
def layeredSettings : Document :=
  Document.overlay unsupportedSettings unsupportedHost.defaultSettings

theorem settings_unsupportedHost : unsupportedHost.settings = .ok layeredSettings := by
  have stands : unsupportedHost.files.find unsupportedHost.settingsPath =
      .found ["settings.yaml"] (.file (.ok unsupportedSettings)) :=
    (FileTree.find_eq_follow (by decide) (by decide)).trans (by decide)
  have merged : unsupportedHost.defaultSettings.merge unsupportedSettings =
      .ok layeredSettings := by decide +kernel
  exact Host.settings_of_found stands rfl merged rfl

/-- The arguments of a command without options. -/
def bare (command : Command) : Arguments :=
  { Wish.order with command, profileFile := none }

theorem findRegistry_bare (host : Host) (registry : Registry String) (command : Command) :
    (findRegistry host (some registry) (bare command)).1 = .ok registry :=
  rfl

theorem parse_validate : Arguments.parse ["validate"] = .ok (bare .validate) := by decide

theorem parse_surface : Arguments.parse ["surface"] = .ok (bare .surface) := by decide

theorem consults_mode : Consults unsupportedHost (bare .validate) layeredSettings
    Registry.smallRegistry .mode (.text "beta") none :=
  .validate rfl (by decide +kernel)

theorem consults_format : Consults unsupportedHost (bare .surface) layeredSettings
    Registry.smallRegistry .format (.text "xml") none :=
  .surface rfl (by decide +kernel)

theorem unsupported_beta : BuildMode.Unsupported (.text "beta") := by
  intro mode
  cases mode <;> decide

theorem unsupported_xml : Format.Unsupported (.text "xml") := by
  intro format
  cases format <;> decide

/-! ## Result -/

/-- An unsupported mode or format is reported where the command line or a profile gives it, the
latter unless something that is wrong with the profile cannot be written out. Where a command comes
to it in any other way, which is from the settings, the run ends as what the command does before, if
that fails, and otherwise at a fault. -/
theorem run_unsupported (host : Host) (shared : SharedRegistry) (words : List String) :
    (∀ roles switch value, Reads words roles → .switch switch (some value) ∈ roles →
      switch.Unoffered value →
        (run host shared words).1 = .ofStop .help ∧ .help none ∈ roles ∨
        ∃ misuse : Misuse, (run host shared words).1 =
          ⟨"", line (Installation.programName ++ ": error: " ++ misuse.message), .status 2⟩) ∧
    ∀ arguments settings registry, Arguments.parse words = .ok arguments →
      host.settings = .ok settings → (findRegistry host shared arguments).1 = .ok registry →
      (∀ document value, arguments.command.needsProfile = true →
        host.OffersProfile settings arguments document →
        document.field? "mode" = .ok (some value) → BuildMode.Unsupported value.opened →
          (∀ violation ∈ Schema.profile.violations document, violation.Writable) ∧
            (∃ path detail, (run host shared words).1.EndsWith (.badManifest path detail)) ∨
          (∃ violation ∈ Schema.profile.violations document, ¬ violation.Writable) ∧
            (run host shared words).1.EndsWith (.fault .numberTooLong)) ∧
      ∀ choice value before, Consults host arguments settings registry choice value before →
        choice.Unsupported value →
          (run host shared words).1.EndsWith (before.getD (.fault (choice.fault value))) := by
  refine ⟨fun roles switch value reads given unoffered => ?_,
    fun arguments settings registry parsed loaded found => ⟨?_, ?_⟩⟩
  · exact run_unoffered reads given unoffered host shared
  · intro document value needsProfile offered given unsupported
    have ends {error : Error} (failed : requested host arguments settings = .error error) :
        (run host shared words).1.EndsWith error :=
      endsWith_of_failure parsed loaded found
        (congrArg Report.failure (failure_of_requested needsProfile failed))
    rcases requested_unsupported offered given unsupported with
      ⟨writable, path, detail, refused⟩ | ⟨unwritable, failed⟩
    · exact .inl ⟨writable, path, detail, ends refused⟩
    · exact .inr ⟨unwritable, ends failed⟩
  · intro choice value before consults unsupported
    exact endsWith_of_failure parsed loaded found (consults.failure_eq unsupported)

/-- A mode that there is not, given in each of the three ways. -/
theorem run_unsupported_beta :
    (run unsupportedHost none ["validate", "--mode", "beta"]).1.ending = .status 2 ∧
      (run (Wish.offering (profileWith (.text "beta"))) (some Registry.smallRegistry)
        ["build", "--profile-file", "/wish.yaml"]).1.ending = .status 1 ∧
      (run unsupportedHost (some Registry.smallRegistry) ["validate"]).1.ending =
        .escaped (.fault (.unknownBuildMode (.text "beta"))) := by
  refine ⟨?_, ?_, ?_⟩
  · have reads : Reads ["validate", "--mode", "beta"]
        [.plain "validate", .switch .mode (some "beta")] := ⟨_, rfl, by decide⟩
    rcases (run_unsupported unsupportedHost none ["validate", "--mode", "beta"]).1 _ .mode "beta"
        reads (by simp) ⟨by decide, by decide⟩ with ⟨_, help⟩ | ⟨misuse, stopped⟩
    · simp at help
    · rw [stopped]
  · rcases ((run_unsupported (Wish.offering (profileWith (.text "beta")))
        (some Registry.smallRegistry) ["build", "--profile-file", "/wish.yaml"]).2
        Wish.order _ Registry.smallRegistry parse_order (settings_offering _) rfl).1
        _ (.text "beta") rfl (Wish.offersProfile_offering _ _) rfl unsupported_beta with
      ⟨_, path, detail, ends⟩ | ⟨unwritable, _⟩
    · exact ends.1
    · have writable : ∀ violation ∈ Schema.profile.violations (.map (profileWith (.text "beta"))),
          violation.cause.isWritable violation.document = true := by decide
      obtain ⟨violation, present, notWritable⟩ := unwritable
      exact absurd (writable violation present) notWritable
  · exact (((run_unsupported unsupportedHost (some Registry.smallRegistry) ["validate"]).2 _ _ _
      parse_validate settings_unsupportedHost (findRegistry_bare _ _ _)).2 _ _ _ consults_mode
      unsupported_beta).1

/-- From the settings a mode and a format that there are not escape as faults, and from a profile a
mode that is too long to be written out. -/
theorem run_unsupported_escapes :
    Host.HasSection layeredSettings "build"
        [(.text "mode", .text "beta"), (.text "default_features", .bool true)] ∧
      Host.HasSection layeredSettings "output" [(.text "format", .text "xml")] ∧
      (run unsupportedHost (some Registry.smallRegistry) ["validate"]).1.ending =
        .escaped (.fault (.unknownBuildMode (.text "beta"))) ∧
      (run unsupportedHost (some Registry.smallRegistry) ["surface"]).1.ending =
        .escaped (.fault (.unknownFormat (.text "xml"))) ∧
      (run (Wish.offering (profileWith (.int (Nat.pow 10 Text.digitLimit : Nat))))
        (some Registry.smallRegistry) ["build", "--profile-file", "/wish.yaml"]).1.ending =
        .escaped (.fault .numberTooLong) := by
  refine ⟨⟨_, rfl, rfl⟩, ⟨_, rfl, rfl⟩, ?_, ?_, ?_⟩
  · exact (endsWith_of_failure parse_validate settings_unsupportedHost (findRegistry_bare _ _ _)
      (consults_mode.failure_eq unsupported_beta)).1
  · exact (endsWith_of_failure parse_surface settings_unsupportedHost (findRegistry_bare _ _ _)
      (consults_format.failure_eq unsupported_xml)).1
  · have found (number : Int) : Schema.profile.violations (.map (profileWith (.int number))) =
        [⟨[.field (.text "mode")], .int number, false, .wrongKind .string⟩,
          ⟨[.field (.text "mode")], .int number, false, .notOneOf ["release", "dev"]⟩] := rfl
    have unwritable : (Document.int (Nat.pow 10 Text.digitLimit : Nat)).isWritable = false := by
      rw [Wish.isWritable_int, decide_eq_false (Nat.lt_irrefl _)]
    have offered := Wish.offersProfile_offering
      (profileWith (.int (Nat.pow 10 Text.digitLimit : Nat)))
    rcases requested_unsupported (offered _) rfl nofun with ⟨writable, _⟩ | ⟨_, failed⟩
    · have quoted := writable _ (found _ ▸ List.mem_cons_self)
      exact absurd (unwritable.symm.trans quoted) Bool.false_ne_true
    · exact (endsWith_of_failure parse_order (settings_offering _) rfl
        (congrArg Report.failure (failure_of_requested rfl failed))).1

end CommandLine

end FeatureResolution
