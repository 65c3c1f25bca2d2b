import FeatureResolution.CheckedFile

/-!
# The shared registry

A process builds the registry that the settings name at most once. `SharedRegistry.acquire` hands
it out: the first time the configuration works it is built and kept, and from then on it is the
answer whatever becomes of the configuration. A failure leaves nothing behind.
-/

namespace FeatureResolution

/-- The registry that the settings in force name. -/
def Host.configuredRegistry {ν : Type} [Label ν] (host : Host) : Except Error (Registry ν) := do
  let path ← host.manifestPath (← host.settings)
  host.files.loadRegistry path.text

/-- The registry a process has built, if it has built one. -/
abbrev SharedRegistry := Option (Registry String)

namespace SharedRegistry

/-- The shared registry and what is kept of it. -/
def acquire (shared : SharedRegistry) (host : Host) :
    Except Error (Registry String) × SharedRegistry :=
  match shared with
  | some registry => (.ok registry, some registry)
  | none =>
    match (host.configuredRegistry : Except Error (Registry String)) with
    | .ok registry => (.ok registry, some registry)
    | .error error => (.error error, none)

end SharedRegistry

end FeatureResolution
