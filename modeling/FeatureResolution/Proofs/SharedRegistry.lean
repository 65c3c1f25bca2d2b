import FeatureResolution.CommandLine
import FeatureResolution.Proofs.CheckedFile

/-!
# The shared registry over the life of a process

A process asks for the shared registry again and again, by itself or in the course of command lines,
and the files and the environment may change in between. What it holds is decided by the uses that
ask (`Use.Asks`): nothing as long as the configuration has failed at each of them (`Unbuilt`), and
from then on the registry of the first at which it worked (`FirstBuilt`).

A use that does not ask neither reads nor changes what is held (`perform_of_not_asks`); one that
asks leaves behind what its configuration leads to when nothing is held (`kept_of_asks`), and what
is held stays (`kept_some`). From these steps follows by induction what a whole history leaves
behind (`Unbuilt.held`, `FirstBuilt.held`).

Result: every further use that asks is given what its own configuration leads to as long as nothing
is held, and the registry that was built first after that (`Given`).
-/

namespace FeatureResolution

open CommandLine

/-! ## Uses -/

/-- Something a process does, on the machine as it is at that time: it asks for the shared registry,
or it runs a command line. -/
inductive Use where
  | lookup (host : Host)
  | run (host : Host) (words : List String)

/-- What a use comes to. -/
inductive Answer where
  | registry (found : Except Error (Registry String))
  | outcome (outcome : Outcome)

/-- The arguments name a manifest. -/
def CommandLine.Arguments.NamesManifest (arguments : Arguments) : Prop :=
  ∃ path, arguments.manifest = some path ∧ path ≠ ""

/-- The registry that the configuration of a machine leads to, if it works: the one in the manifest
at the path that the machine's settings name. -/
def Host.shared (host : Host) : Except Error (Registry String) := do
  let settings ← host.settings
  let path ← host.manifestPath settings
  host.files.loadRegistry path.text

theorem Host.configuredRegistry_eq_shared (host : Host) :
    host.configuredRegistry = host.shared :=
  rfl

namespace Use

/-- What a use comes to, and what the process holds then. -/
def perform (held : SharedRegistry) : Use → Answer × SharedRegistry
  | .lookup host => (held.acquire host).map Answer.registry id
  | .run host words => (CommandLine.run host held words).map Answer.outcome id

/-- What a process holds after some uses, one after the other. -/
def heldFrom (held : SharedRegistry) (uses : List Use) : SharedRegistry :=
  uses.foldl (fun held use => (use.perform held).2) held

/-- A use asks for the shared registry.

* `lookup`: that is all it does.
* `run`: the command line can be read and names no manifest, and there are settings. -/
inductive Asks : Use → Host → Prop
  | lookup {host : Host} : Asks (.lookup host) host
  | run {host : Host} {words : List String} {arguments : Arguments} {settings : Document} :
      Arguments.parse words = .ok arguments → host.settings = .ok settings →
      ¬ arguments.NamesManifest → Asks (.run host words) host

/-- At each of these uses that asks for the shared registry the configuration fails. -/
def Unbuilt (uses : List Use) : Prop :=
  ∀ use ∈ uses, ∀ host, use.Asks host → ∃ error, host.shared = .error error

/-- The first of these uses that asks for the shared registry when the configuration works finds
this registry. -/
def FirstBuilt (uses : List Use) (registry : Registry String) : Prop :=
  ∃ before use after host, uses = before ++ use :: after ∧ Unbuilt before ∧ use.Asks host ∧
    host.shared = .ok registry

/-- What a use that asks on a machine is given after some uses.

* `own`: while the configuration has failed at each of them, whatever the machine's own
  configuration leads to, be it an error.
* `kept`: once it has worked, the registry of the first time, whatever has become of the machine. -/
inductive Given (uses : List Use) (host : Host) : Except Error (Registry String) → Prop
  | own : Unbuilt uses → Given uses host host.shared
  | kept {registry : Registry String} : FirstBuilt uses registry → Given uses host (.ok registry)

/-- What a command reports when this is the registry that it is given. -/
def reportOn (host : Host) (arguments : Arguments) (settings : Document) :
    Except Error (Registry String) → Report
  | .ok registry => report host arguments settings registry
  | .error error => .failed error

/-! ## Asking -/

theorem acquire_none (host : Host) :
    SharedRegistry.acquire none host = (host.shared, host.shared.toOption) := by
  rw [SharedRegistry.acquire, Host.configuredRegistry_eq_shared]
  cases host.shared <;> rfl

theorem findRegistry_of_namesManifest {arguments : Arguments} (named : arguments.NamesManifest)
    (host : Host) : ∃ path, ∀ held,
      findRegistry host held arguments = (host.files.loadRegistry path, held) := by
  obtain ⟨path, given, nonempty⟩ := named
  exact ⟨path, fun held => by simp [findRegistry, given, nonempty]⟩

theorem findRegistry_of_not_namesManifest {arguments : Arguments}
    (unnamed : ¬ arguments.NamesManifest) (host : Host) (held : SharedRegistry) :
    findRegistry host held arguments = held.acquire host := by
  unfold findRegistry
  split
  · next path given =>
    have empty : path.isEmpty = true := by
      cases isEmpty : path.isEmpty with
      | true => rfl
      | false => exact absurd ⟨path, given, by simpa using isEmpty⟩ unnamed
    rw [if_pos empty]
  · rfl

/-- A command line that asks for the shared registry works on what it is given. -/
theorem run_eq_of_acquire {host : Host} {words : List String} {arguments : Arguments}
    {settings : Document} (parsed : Arguments.parse words = .ok arguments)
    (loaded : host.settings = .ok settings) (unnamed : ¬ arguments.NamesManifest)
    (held : SharedRegistry) : CommandLine.run host held words =
      (.ofReport (reportOn host arguments settings (held.acquire host).1),
        (held.acquire host).2) := by
  simp only [CommandLine.run, parsed, execute, loaded, findRegistry_of_not_namesManifest unnamed]
  match held.acquire host with
  | (.ok registry, kept) => rfl
  | (.error error, kept) => rfl

/-- What a use that does not ask comes to is not decided by what is held, and it leaves that as it
is. -/
theorem perform_of_not_asks {use : Use} (silent : ∀ host, ¬ use.Asks host)
    (held : SharedRegistry) : use.perform held = ((use.perform none).1, held) := by
  cases use with
  | lookup host => exact absurd .lookup (silent host)
  | run host words =>
    simp only [perform, CommandLine.run]
    split
    · rfl
    · next arguments parsed =>
      simp only [execute]
      split
      · rfl
      · next settings loaded =>
        -- There are arguments and settings, so a manifest is named.
        have named : arguments.NamesManifest := Classical.byContradiction fun unnamed =>
          silent host (.run parsed loaded unnamed)
        obtain ⟨path, found⟩ := findRegistry_of_namesManifest named host
        rw [found held, found none]
        cases (host.files.loadRegistry path : Except Error (Registry String)) <;> rfl

/-! ## Steps -/

theorem kept_of_asks {use : Use} {host : Host} (asks : use.Asks host) :
    (use.perform none).2 = host.shared.toOption := by
  cases asks with
  | lookup => rw [perform, acquire_none]; rfl
  | run parsed loaded unnamed =>
    rw [perform, run_eq_of_acquire parsed loaded unnamed, acquire_none]
    rfl

theorem kept_some (use : Use) (registry : Registry String) :
    (use.perform (some registry)).2 = some registry := by
  by_cases silent : ∀ host, ¬ use.Asks host
  · rw [perform_of_not_asks silent]
  · obtain ⟨host, asks⟩ := Classical.not_forall_not.1 silent
    cases asks with
    | lookup => rfl
    | run parsed loaded unnamed =>
      rw [perform, run_eq_of_acquire parsed loaded unnamed]
      rfl

theorem heldFrom_some (registry : Registry String) (uses : List Use) :
    heldFrom (some registry) uses = some registry := by
  induction uses with
  | nil => rfl
  | cons use rest ih => rw [heldFrom, List.foldl_cons, kept_some]; exact ih

/-- What one use leaves behind when nothing is held: nothing, as long as the configuration fails. -/
theorem kept_none_cases (use : Use) :
    ((use.perform none).2 = none ∧ ∀ host, use.Asks host → ∃ error, host.shared = .error error) ∨
      ∃ host registry, (use.perform none).2 = some registry ∧ use.Asks host ∧
        host.shared = .ok registry := by
  by_cases silent : ∀ host, ¬ use.Asks host
  · exact .inl ⟨by rw [perform_of_not_asks silent], fun host asks => absurd asks (silent host)⟩
  · obtain ⟨host, asks⟩ := Classical.not_forall_not.1 silent
    have kept := kept_of_asks asks
    cases found : host.shared with
    | error error =>
      refine .inl ⟨by rw [kept, found]; rfl, fun other otherAsks => ⟨error, ?_⟩⟩
      cases asks <;> cases otherAsks <;> exact found
    | ok registry => exact .inr ⟨host, registry, by rw [kept, found]; rfl, asks, found⟩

/-! ## Histories -/

theorem Unbuilt.held {uses : List Use} (unbuilt : Unbuilt uses) : heldFrom none uses = none := by
  induction uses with
  | nil => rfl
  | cons use rest ih =>
    obtain ⟨fails, restUnbuilt⟩ := List.forall_mem_cons.1 unbuilt
    have kept : (use.perform none).2 = none := by
      rcases kept_none_cases use with ⟨kept, _⟩ | ⟨host, registry, _, asks, found⟩
      · exact kept
      · obtain ⟨error, failed⟩ := fails host asks
        cases found.symm.trans failed
    rw [heldFrom, List.foldl_cons, kept]
    exact ih restUnbuilt

theorem FirstBuilt.held {uses : List Use} {registry : Registry String}
    (built : FirstBuilt uses registry) : heldFrom none uses = some registry := by
  obtain ⟨before, use, after, host, rfl, unbuilt, asks, found⟩ := built
  have nothing := unbuilt.held
  rw [heldFrom] at nothing
  rw [heldFrom, List.foldl_append, List.foldl_cons, nothing, kept_of_asks asks, found]
  exact heldFrom_some registry after

theorem FirstBuilt.cons {use : Use} {rest : List Use} {registry : Registry String}
    (fails : ∀ host, use.Asks host → ∃ error, host.shared = .error error)
    (built : FirstBuilt rest registry) : FirstBuilt (use :: rest) registry := by
  obtain ⟨before, next, after, host, rfl, unbuilt, asks, found⟩ := built
  exact ⟨use :: before, next, after, host, rfl, List.forall_mem_cons.2 ⟨fails, unbuilt⟩, asks,
    found⟩

/-- Either the configuration has failed whenever a use asked, or there was a first time that it
worked. -/
theorem unbuilt_or_firstBuilt (uses : List Use) :
    Unbuilt uses ∨ ∃ registry, FirstBuilt uses registry := by
  induction uses with
  | nil => exact .inl nofun
  | cons use rest ih =>
    rcases kept_none_cases use with ⟨_, fails⟩ | ⟨host, registry, _, asks, found⟩
    · rcases ih with unbuilt | ⟨registry, built⟩
      · exact .inl (List.forall_mem_cons.2 ⟨fails, unbuilt⟩)
      · exact .inr ⟨registry, built.cons fails⟩
    · exact .inr ⟨registry, [], use, rest, host, rfl, nofun, asks, found⟩

/-- What a use that asks is given is what it finds, and that is held after it. -/
theorem Given.acquire {uses : List Use} {host : Host} {found : Except Error (Registry String)}
    (given : Given uses host found) :
    (heldFrom none uses).acquire host = (found, found.toOption) := by
  cases given with
  | own unbuilt => rw [unbuilt.held, acquire_none]
  | kept built => rw [built.held]; rfl

/-! ## Result -/

/-- Whatever a process has done so far, and however its files and its environment have changed in
between, the next use that asks for the shared registry is given one thing: what its own
configuration leads to, as long as the configuration has failed each time, and after that the
registry of the first time it worked. That is what a look-up answers and what a command works on,
and the registry is held from then on, whatever the command comes to; after an error nothing is
held. A command line that names a manifest neither depends on what is held nor changes it. -/
theorem sharedRegistry_history (uses : List Use) (host : Host) :
    (∃ found, Given uses host found) ∧
    (∀ found, Given uses host found →
      (lookup host).perform (heldFrom none uses) = (.registry found, found.toOption) ∧
      ∀ words arguments settings, Arguments.parse words = .ok arguments →
        host.settings = .ok settings → ¬ arguments.NamesManifest →
        (run host words).perform (heldFrom none uses) =
          (.outcome (.ofReport (reportOn host arguments settings found)), found.toOption)) ∧
    ∀ words arguments, Arguments.parse words = .ok arguments → arguments.NamesManifest →
      ∀ held, (run host words).perform held = (((run host words).perform none).1, held) := by
  refine ⟨?_, fun found given => ⟨?_, ?_⟩, ?_⟩
  · rcases unbuilt_or_firstBuilt uses with unbuilt | ⟨registry, built⟩
    · exact ⟨_, .own unbuilt⟩
    · exact ⟨_, .kept built⟩
  · rw [perform, given.acquire]
    rfl
  · intro words arguments settings parsed loaded unnamed
    rw [perform, run_eq_of_acquire parsed loaded unnamed, given.acquire]
    rfl
  · intro words arguments parsed named
    refine perform_of_not_asks fun other asks => ?_
    cases asks with
    | run otherParsed _ unnamed =>
      cases parsed.symm.trans otherParsed
      exact unnamed named

/-- A machine without any file. -/
def emptyHost : Host where
  root := "/"
  files := ⟨[], []⟩
  environment := {}

/-- Settings that name a manifest. -/
def naming : Document :=
  .map [(.text "registry", .map [(.text "manifest", .text "flags.yaml")])]

/-- A machine with these settings and some other files. -/
def namingHost (others : List (List String × Node)) : Host where
  root := "/"
  files := ⟨[], (["settings.yaml"], .file (.ok naming)) :: others⟩
  environment := { config := some "/settings.yaml" }

/-- What these settings come to over the built-in ones. -/
def namingSettings : Document :=
  Document.overlay naming (namingHost []).defaultSettings

/-- A machine with these settings, but without the manifest. -/
def brokenHost : Host := namingHost []

/-- A machine with these settings and the manifest, which declares one flag. -/
def workingHost : Host :=
  namingHost [(["flags.yaml"], .file (.ok (FileTree.declaring ["std"])))]

/-- The registry in that manifest. -/
def stdRegistry : Registry String where
  flags := [{ name := "std" }]
  conflicts := []
  artifact := some ⟨"core", "1.0.0"⟩

/-- The arguments of a command on a feature that there is not. -/
def asking : Arguments where
  command := .resolve
  manifest := none
  features := "nope"
  noDefaultFeatures := false
  artifacts := []
  mode := none
  format := none
  profile := none
  profileFile := none
  explain := false

/-- The arguments of a command on a manifest. -/
def pointing : Arguments :=
  { asking with manifest := some "/flags.yaml", features := "" }

theorem settings_namingHost (others : List (List String × Node)) :
    (namingHost others).settings = .ok namingSettings := by
  have stands : (namingHost others).files.find (.ofText "/settings.yaml") =
      .found ["settings.yaml"] (.file (.ok naming)) :=
    (FileTree.find_eq_follow (by decide) (by decide)).trans rfl
  have merged : (namingHost []).defaultSettings.merge naming = .ok namingSettings := by
    decide +kernel
  exact Host.settings_of_found stands rfl merged rfl

theorem shared_namingHost (others : List (List String × Node)) :
    (namingHost others).shared = (namingHost others).files.loadRegistry "/flags.yaml" := by
  have path : (namingHost []).manifestPath namingSettings = .ok ⟨.root, ["flags.yaml"]⟩ := by
    decide +kernel
  have same : (namingHost others).manifestPath namingSettings = .ok ⟨.root, ["flags.yaml"]⟩ := path
  have text : (⟨.root, ["flags.yaml"]⟩ : Path).text = "/flags.yaml" := by decide
  rw [Host.shared, settings_namingHost, ok_bind, same, ok_bind, text]

theorem shared_emptyHost : emptyHost.shared =
    .error (.badManifest "/flagpin/manifests/serde.yaml" "file not found") := by
  have absent : emptyHost.files.find emptyHost.settingsPath = .missing :=
    (FileTree.find_eq_follow (by decide) (by decide)).trans (by decide)
  have settings := Host.settings_of_missing absent rfl
  have path : emptyHost.manifestPath emptyHost.defaultSettings =
      .ok ⟨.root, ["flagpin", "manifests", "serde.yaml"]⟩ := by
    decide +kernel
  have text : (⟨.root, ["flagpin", "manifests", "serde.yaml"]⟩ : Path).text =
      "/flagpin/manifests/serde.yaml" := by decide
  have missing : emptyHost.files.find (.ofText "/flagpin/manifests/serde.yaml") = .missing :=
    (FileTree.find_eq_follow (by decide) (by decide)).trans (by decide)
  rw [Host.shared, settings, ok_bind, path, ok_bind, text]
  exact FileTree.loadRegistry_of_missing (FileTree.find?_eq_none missing)

theorem shared_brokenHost :
    brokenHost.shared = .error (.badManifest "/flags.yaml" "file not found") := by
  have missing : brokenHost.files.find (.ofText "/flags.yaml") = .missing :=
    (FileTree.find_eq_follow (by decide) (by decide)).trans (by decide)
  exact (shared_namingHost []).trans
    (FileTree.loadRegistry_of_missing (FileTree.find?_eq_none missing))

theorem shared_workingHost : workingHost.shared = .ok stdRegistry := by
  have stands : workingHost.files.find (.ofText "/flags.yaml") =
      .found ["flags.yaml"] (.file (.ok (FileTree.declaring ["std"]))) :=
    (FileTree.find_eq_follow (by decide) (by decide)).trans (by decide)
  have loaded : workingHost.files.loadManifest "/flags.yaml" = .ok (FileTree.declaring ["std"]) :=
    FileTree.loadManifest_eq_ok_iff.2 ⟨FileTree.find?_eq_some stands, rfl,
      FileTree.keeps_declaring (by simp) (by decide +kernel)⟩
  rw [workingHost, shared_namingHost, ← workingHost, FileTree.loadRegistry, loaded]
  rfl

/-- The configuration fails, works once, for a command that is refused, and fails from then on: the
registry of that time stays, and a command that names a manifest leaves it alone. -/
theorem sharedRegistry_history_workingOnce :
    (lookup emptyHost).perform (heldFrom none []) = (.registry (.error
        (.badManifest "/flagpin/manifests/serde.yaml" "file not found")), none) ∧
      (∃ arguments settings, Arguments.parse ["resolve", "--features", "nope"] = .ok arguments ∧
        workingHost.settings = .ok settings ∧ ¬ arguments.NamesManifest ∧
        (run workingHost ["resolve", "--features", "nope"]).perform
            (heldFrom none [lookup emptyHost]) =
          (.outcome ⟨"", "ERROR: Unknown flag: 'nope'\n", .status 1⟩, some stdRegistry)) ∧
      brokenHost.shared = .error (.badManifest "/flags.yaml" "file not found") ∧
      (lookup brokenHost).perform (heldFrom none
          [lookup emptyHost, run workingHost ["resolve", "--features", "nope"]]) =
        (.registry (.ok stdRegistry), some stdRegistry) ∧
      ∃ arguments, Arguments.parse ["resolve", "--manifest", "/flags.yaml"] = .ok arguments ∧
        arguments.NamesManifest ∧
        ∀ held, (run brokenHost ["resolve", "--manifest", "/flags.yaml"]).perform held =
          (((run brokenHost ["resolve", "--manifest", "/flags.yaml"]).perform none).1, held) := by
  have asks : Arguments.parse ["resolve", "--features", "nope"] = .ok asking := by decide
  have settings : workingHost.settings = .ok namingSettings := settings_namingHost _
  have unnamed : ¬ asking.NamesManifest := by
    rintro ⟨path, given, _⟩
    cases given
  have unbuilt : Unbuilt [lookup emptyHost] := by
    refine List.forall_mem_singleton.2 fun host asksHere => ?_
    cases asksHere
    exact ⟨_, shared_emptyHost⟩
  have givenFirst : Given [] emptyHost (.error
      (.badManifest "/flagpin/manifests/serde.yaml" "file not found")) :=
    shared_emptyHost ▸ .own (List.forall_mem_nil _)
  have givenOnce : Given [lookup emptyHost] workingHost (.ok stdRegistry) :=
    shared_workingHost ▸ .own unbuilt
  have built : FirstBuilt [lookup emptyHost, run workingHost ["resolve", "--features", "nope"]]
      stdRegistry :=
    ⟨[lookup emptyHost], _, [], workingHost, rfl, unbuilt, .run asks settings unnamed,
      shared_workingHost⟩
  have refused : Outcome.ofReport (reportOn workingHost asking namingSettings (.ok stdRegistry)) =
      ⟨"", "ERROR: Unknown flag: 'nope'\n", .status 1⟩ := by
    decide +kernel
  have once := ((sharedRegistry_history _ workingHost).2.1 _ givenOnce).2 _ _ _ asks settings
    unnamed
  rw [refused] at once
  refine ⟨((sharedRegistry_history [] emptyHost).2.1 _ givenFirst).1,
    ⟨asking, namingSettings, asks, settings, unnamed, once⟩, shared_brokenHost,
    ((sharedRegistry_history _ brokenHost).2.1 _ (.kept built)).1, ?_⟩
  have points : Arguments.parse ["resolve", "--manifest", "/flags.yaml"] = .ok pointing := by decide
  have named : pointing.NamesManifest := ⟨"/flags.yaml", rfl, by decide⟩
  exact ⟨pointing, points, named, (sharedRegistry_history [] brokenHost).2.2 _ _ points named⟩

end Use

end FeatureResolution
