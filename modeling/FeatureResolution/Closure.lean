import FeatureResolution.Registry

/-!
# Closure of a request

A request names flags; the name of the default set stands for every flag that is on by default.
`Registry.resolve` enables the requested flags and everything they imply. It works in rounds: the
flags implied by the newest layer that are not enabled yet form the next layer, until a layer is
empty. `Registry.explain` tells, for each enabled flag, which enabled flags imply it.
-/

namespace FeatureResolution

/-- The state between two rounds: the flags enabled so far and those enabled last. -/
structure ClosureState (ν : Type) [Label ν] where
  working : NameSet ν
  frontier : NameSet ν
deriving DecidableEq, Repr

variable {ν : Type} [Label ν]

namespace Registry

/-- Everything that one of the given flags implies directly. -/
def impliedByAny (registry : Registry ν) (names : List ν) : Except Error (NameSet ν) :=
  names.foldlM (fun implied name => return implied ∪ (← registry.impliedBy name)) ∅

/-- One round: enables what the newest layer implies. -/
def round (registry : Registry ν) (state : ClosureState ν) : Except Error (ClosureState ν) := do
  let implied ← registry.impliedByAny state.frontier.toList
  let frontier := implied \ state.working
  return ⟨state.working ∪ frontier, frontier⟩

/-- Rounds until the newest layer is empty. -/
def rounds (registry : Registry ν) : Nat → ClosureState ν → Except Error (ClosureState ν)
  | 0, state => .ok state
  | fuel + 1, state =>
    if state.frontier.isEmpty then .ok state
    else do rounds registry fuel (← registry.round state)

/-- The given flags and everything they imply. There are no more layers than flags, and one round
more to find the last layer empty. -/
def closure (registry : Registry ν) (names : NameSet ν) : Except Error (NameSet ν) := do
  return (← registry.rounds (registry.size + 1) ⟨names, names⟩).working

/-- The name of the default set as a label. -/
def defaultSetLabel : ν :=
  Label.ofText defaultSetName

/-- Checks that requested names are declared, the name of the default set apart. -/
def checkRequested (registry : Registry ν) : List ν → Except Error Unit
  | [] => .ok ()
  | name :: rest =>
    if Label.same name defaultSetLabel || registry.contains name then
      checkRequested registry rest
    else .error (.unknownFlag (Label.document name))

/-- The flags a request starts from: the requested ones and, if wanted, the default set. -/
def initial (registry : Registry ν) (requested : NameSet ν) (defaultFeatures : Bool) : NameSet ν :=
  let named := requested.erase defaultSetLabel
  if defaultFeatures || requested.has defaultSetLabel then named ∪ registry.defaultSet
  else named

/-- The flags that a request enables. -/
def resolve (registry : Registry ν) (requested : NameSet ν) (defaultFeatures : Bool) :
    Except Error (NameSet ν) := do
  registry.checkRequested (← requested.sorted)
  registry.closure (registry.initial requested defaultFeatures)

/-- For each enabled flag, in ascending order, the enabled flags that imply it directly. -/
def explain (registry : Registry ν) (capabilities : NameSet ν) :
    Except Error (List (ν × NameSet ν)) := do
  let edges ← capabilities.toList.mapM fun name => return (name, ← registry.impliedBy name)
  return capabilities.toList.map fun target =>
    (target, .ofList ((edges.filter fun edge => target ∈ edge.2).map (·.1)))

end Registry

end FeatureResolution
