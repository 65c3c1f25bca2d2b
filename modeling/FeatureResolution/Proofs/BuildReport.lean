import FeatureResolution.CommandLine.Commands
import FeatureResolution.Proofs.Build

/-!
# What a build reports

A build prints a block on its request (`headingText`), a heading for each of its phases
(`phaseText`) and a block at its end (`closingText`). It names its mode, runs its request and then
prints what came of it, of which only the surface can be missing (`buildSections_eq`). To run a
request and to show the surface of the result is to validate the request and then to show its
surface (`run_bind_exposed`). So the report of a build is what `validate` and `surface` report for
the same request, one after the other:

* it ends well when both do (`completes_build_iff`), and then it prints the surface last
  (`printed_build_of_completes`);
* it fails as the first of them that fails (`failure_build_of_isWritable`), unless the mode cannot
  be written out: then it fails before it runs (`failure_build_of_not_isWritable`).
-/

namespace FeatureResolution.CommandLine

/-! ## The text around the stages -/

/-- Sixty equals signs on a line. -/
def rule : String :=
  "============================================================\n"

theorem banner_eq : banner = rule := by decide

/-- A line between two such lines. -/
def boxed (title : String) : String :=
  rule ++ title ++ "\n" ++ rule

/-- A registry in one line: the name and the version of its owner, and the number of its flags. -/
def registryText (registry : Registry String) : String :=
  let owner := registry.artifact.elim "anonymous" fun owner => owner.name ++ " " ++ owner.version
  "<FlagRegistry " ++ owner ++ ": " ++ toString registry.flags.length ++ " flags>"

/-- The block that a build prints first, of six lines: its name between two rules, its registry,
what is requested, and the default set and the mode. -/
def headingText (registry : Registry String) (request : Request String) : String :=
  let features := String.intercalate ", " request.features.toList
  boxed ("BUILD (" ++ Text.upper request.name.shown ++ ")") ++
    "Registry: " ++ registryText registry ++ "\n" ++
    "Requested: " ++ (if features = "" then "(none)" else features) ++ "\n" ++
    "Default features: " ++ (if request.defaultFeatures.truthy then "on" else "off") ++
    ", Mode: " ++ request.mode.shown ++ "\n"

/-- The heading of a phase of a build, after an empty line. -/
def phaseText (number title name : String) : String :=
  let label := if name = "" then "" else " (" ++ Text.upper name ++ ")"
  "\n" ++ boxed ("PHASE " ++ number ++ ": " ++ title ++ label)

/-- The block that a build prints last. -/
def closingText (name : String) : String :=
  boxed ("BUILD (" ++ Text.upper name ++ ") COMPLETE")

theorem summary_eq (registry : Registry String) : registry.summary = registryText registry := by
  unfold Registry.summary Registry.owner registryText
  cases registry.artifact <;> rfl

/-- The heading of a build and the line on its mode make the first block. -/
theorem headingText_eq {registry : Registry String} {request : Request String} {named : String}
    (writable : modeLine request = .ok named) :
    buildHeading registry request ++ named = headingText registry request := by
  obtain ⟨_, _, rest⟩ := bind_eq_ok_iff.1 writable
  cases rest
  simp only [buildHeading, headingText, boxed, line, banner_eq, summary_eq, String.isEmpty_iff,
    String.append_assoc]

theorem phaseHeading_eq (number title name : String) :
    phaseHeading number title (some name) = phaseText number title name := by
  simp [phaseHeading, phaseText, boxed, line, banner_eq, String.append_assoc]

theorem buildClosing_eq (request : Request String) :
    buildClosing request = closingText request.name.shown := by
  simp [buildClosing, closingText, boxed, line, banner_eq, String.append_assoc]

/-! ## Failures -/

/-- How a computation fails, if it does. -/
def failureOf {α : Type} : Except Error α → Option Error
  | .ok _ => none
  | .error error => some error

variable {α β : Type}

theorem failureOf_eq_none_iff {first : Except Error α} :
    failureOf first = none ↔ ∃ value, first = .ok value := by
  cases first <;> simp [failureOf]

/-- Of two computations in a row the first that fails decides. -/
theorem failureOf_seq (first : Except Error α) (second : Except Error β) :
    failureOf (first >>= fun _ => second) = (failureOf first).or (failureOf second) := by
  cases first <;> rfl

namespace Report

theorem failure_ofPieces_cons (piece : Except Error String) (rest : List (Except Error String)) :
    (ofPieces (piece :: rest)).failure = (failureOf piece).or (ofPieces rest).failure := by
  cases piece <;> rfl

theorem failure_ofPieces_single (piece : Except Error String) :
    (ofPieces [piece]).failure = failureOf piece := by
  cases piece <;> rfl

end Report

/-! ## The stages as two commands have them -/

/-- What a build prints of its result as the surface, in the format that takes effect. -/
def exposed (arguments : Arguments) (settings : Document) (registry : Registry String)
    (result : BuildResult String) : Except Error String := do
  let format ← effectiveFormat arguments settings
  return line (← registry.render result.capabilities (some result.items.toList) format)

/-- What `validate` does for a request. -/
def validatedFor (registry : Registry String) (request : Request String) :
    Except Error String := do
  let capabilities ← registry.resolve request.features request.defaultFeatures.truthy
  let mode ← BuildMode.parse request.mode
  registry.validate capabilities request.artifacts.declared mode
  return line ("[OK] Artifact pins satisfied (" ++ request.mode.shown ++ ")")

/-- What `surface` does for a request. -/
def surfacedFor (arguments : Arguments) (settings : Document)
    (registry : Registry String) (request : Request String) : Except Error String := do
  let capabilities ← registry.resolve request.features request.defaultFeatures.truthy
  let items ← registry.materialize capabilities
  exposed arguments settings registry ⟨request, capabilities, items⟩

variable {host : Host} {order : Arguments} {settings : Document} {registry : Registry String}
  {request : Request String}

/-- Running a request and exposing the result is validating it and then exposing its surface. -/
theorem run_bind_exposed (arguments : Arguments) (settings : Document)
    (registry : Registry String) (request : Request String) :
    (registry.run request >>= exposed arguments settings registry) =
      validatedFor registry request >>= fun _ =>
        surfacedFor arguments settings registry request := by
  rw [Registry.run_stages, validatedFor, surfacedFor]
  cases registry.resolve request.features request.defaultFeatures.truthy with
  | error error => rfl
  | ok capabilities =>
    cases BuildMode.parse request.mode with
    | error error => rfl
    | ok mode =>
      simp only [ok_bind]
      cases registry.validate capabilities request.artifacts.declared mode with
      | error error => rfl
      | ok _ =>
        simp only [ok_bind]
        cases registry.materialize capabilities <;> rfl

/-! ## The pieces of a build's report -/

theorem failureOf_modeLine (request : Request String) :
    failureOf (modeLine request) =
      if request.mode.isWritable then none else some (.fault .numberTooLong) := by
  unfold modeLine needWritable
  cases request.mode.isWritable <;> rfl

theorem exists_modeLine_iff {request : Request String} :
    (∃ named, modeLine request = .ok named) ↔ request.mode.isWritable = true := by
  rw [← failureOf_eq_none_iff, failureOf_modeLine]
  cases request.mode.isWritable <;> simp

/-- The enabled flags as a build prints them, one per line. -/
def closureLines (result : BuildResult String) : String :=
  String.intercalate "\n" (Text.sorted result.capabilities.toList) ++ "\n"

/-- What a build that has run prints before its surface. -/
def upToPins (registry : Registry String) (result : BuildResult String) : String :=
  headingText registry result.request ++
    phaseText "1" "CLOSURE" result.request.name.shown ++ closureLines result ++
    phaseText "2" "PINS" result.request.name.shown ++ contractSection registry result

/-- Of the pieces that a build prints of its result only the surface can be missing. -/
theorem buildSections_eq (arguments : Arguments) (settings : Document)
    (registry : Registry String) (result : BuildResult String) :
    buildSections arguments settings registry result =
      [.ok (phaseText "1" "CLOSURE" result.request.name.shown),
        .ok (closureLines result),
        .ok (phaseText "2" "PINS" result.request.name.shown ++ contractSection registry result),
        .ok (phaseText "3" "SURFACE" result.request.name.shown),
        exposed arguments settings registry result,
        .ok (closingText result.request.name.shown)] := by
  have listed : line <$> registry.render result.capabilities none .list =
      .ok (closureLines result) := by
    rw [Registry.render, Label.texts_text]
    rfl
  unfold buildSections
  simp only [listed, phaseHeading_eq, buildClosing_eq]
  rfl

/-- A build fails when its mode cannot be named, when the request does not run, or when what it
exposes cannot be shown, in this order. -/
theorem failure_build (isBuild : order.command = .build)
    (found : requested host order settings = .ok request) :
    (report host order settings registry).failure = (failureOf (modeLine request)).or
      (failureOf (registry.run request >>= exposed order settings registry)) := by
  simp only [report, isBuild, built, found, ok_bind, pure_eq_ok, Report.ofExcept,
    Report.failure_ofPieces_cons]
  cases registry.run request with
  | error error => simp [failureOf, Report.ofPieces]
  | ok result =>
    simp [buildSections_eq, Report.failure_ofPieces_cons, failureOf, Report.ofPieces]

/-- What is printed of a build that has run, up to the surface and whatever comes of that. -/
theorem printed_build (isBuild : order.command = .build)
    (found : requested host order settings = .ok request)
    (writable : request.mode.isWritable = true) {result : BuildResult String}
    (ran : registry.run request = .ok result) :
    (report host order settings registry).printed =
      upToPins registry result ++ phaseText "3" "SURFACE" request.name.shown ++
        (Report.ofPieces [exposed order settings registry result,
          .ok (closingText request.name.shown)]).printed := by
  obtain ⟨rfl, _⟩ := Registry.run_eq_ok_iff_stages.1 ran
  obtain ⟨named, modeNamed⟩ := exists_modeLine_iff.2 writable
  simp [report, isBuild, built, found, Report.ofExcept, modeNamed, ran, buildSections_eq, upToPins,
    ← headingText_eq modeNamed, Report.ofPieces, String.append_assoc]

/-! ## Modes that cannot be written out -/

theorem isWritable_of_validatedFor {shown : String}
    (valid : validatedFor registry request = .ok shown) : request.mode.isWritable = true := by
  obtain ⟨capabilities, _, later⟩ := bind_eq_ok_iff.1 valid
  obtain ⟨mode, parsed, _⟩ := bind_eq_ok_iff.1 later
  rw [BuildMode.parse_eq_ok_iff.1 parsed]
  rfl

/-- Once its flags are resolved, such a mode is what validation fails at. -/
theorem validatedFor_of_not_isWritable {capabilities : NameSet String}
    (resolved : registry.resolve request.features request.defaultFeatures.truthy =
      .ok capabilities)
    (unwritable : request.mode.isWritable = false) :
    validatedFor registry request = .error (.fault .numberTooLong) := by
  have named (name : String) : request.mode ≠ .text name := by
    intro is
    rw [is] at unwritable
    cases unwritable
  have refused : BuildMode.parse request.mode = .error (.fault .numberTooLong) :=
    BuildMode.parse_eq_error_iff.2 ⟨named _, named _, by simp [unwritable]⟩
  rw [validatedFor, resolved, ok_bind, refused, error_bind]

/-! ## A build beside the two commands -/

theorem failure_build_of_isWritable (isBuild : order.command = .build)
    (found : requested host order settings = .ok request)
    (writable : request.mode.isWritable = true) :
    (report host order settings registry).failure =
      (failureOf (validatedFor registry request)).or
        (failureOf (surfacedFor order settings registry request)) := by
  rw [failure_build isBuild found, run_bind_exposed, failureOf_seq, failureOf_modeLine,
    if_pos writable, Option.none_or]

theorem failure_build_of_not_isWritable (isBuild : order.command = .build)
    (found : requested host order settings = .ok request)
    (unwritable : request.mode.isWritable = false) :
    (report host order settings registry).failure = some (.fault .numberTooLong) := by
  rw [failure_build isBuild found, failureOf_modeLine, if_neg (by simp [unwritable]),
    Option.some_or]

theorem completes_build_iff (isBuild : order.command = .build)
    (found : requested host order settings = .ok request) :
    (report host order settings registry).failure = none ↔
      failureOf (validatedFor registry request) = none ∧
        failureOf (surfacedFor order settings registry request) = none := by
  cases writable : request.mode.isWritable with
  | true => rw [failure_build_of_isWritable isBuild found writable, Option.or_eq_none_iff]
  | false =>
    rw [failure_build_of_not_isWritable isBuild found writable]
    refine ⟨nofun, fun ⟨valid, _⟩ => ?_⟩
    -- The mode of a valid request is a text.
    obtain ⟨shown, valid⟩ := failureOf_eq_none_iff.1 valid
    rw [isWritable_of_validatedFor valid] at writable
    cases writable

theorem printed_build_of_completes (isBuild : order.command = .build)
    (found : requested host order settings = .ok request)
    (completes : (report host order settings registry).failure = none) : ∃ before shown,
    surfacedFor order settings registry request = .ok shown ∧
    (report host order settings registry).printed =
      before ++ phaseText "3" "SURFACE" request.name.shown ++ shown ++
        closingText request.name.shown := by
  obtain ⟨valid, exposes⟩ := (completes_build_iff isBuild found).1 completes
  obtain ⟨confirmation, valid⟩ := failureOf_eq_none_iff.1 valid
  obtain ⟨shown, exposes⟩ := failureOf_eq_none_iff.1 exposes
  have ends := run_bind_exposed order settings registry request
  rw [valid, ok_bind, exposes] at ends
  obtain ⟨result, ran, shows⟩ := bind_eq_ok_iff.1 ends
  refine ⟨upToPins registry result, shown, exposes, ?_⟩
  rw [printed_build isBuild found (isWritable_of_validatedFor valid) ran, shows]
  simp [Report.ofPieces, String.append_assoc]

end FeatureResolution.CommandLine
