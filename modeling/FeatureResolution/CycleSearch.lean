import FeatureResolution.NameSet

/-!
# Search for a cycle

A depth-first walk over a directed graph whose edges are given as the list of each name's targets.
The walk keeps its current path, the targets each flag on the path has still to be followed to, the
set of names on the path and the set of names it is done with. An edge back to a name on the path
closes a cycle; the walk stops there and reports it.

Each step follows one edge or leaves one name, and a name is entered at most once, so the number
of names and edges bounds the number of steps.
-/

namespace FeatureResolution

/-- The state of the walk. `path` starts with the name entered last, and `pending` holds, in the
same order, the targets still to be followed from each name on the path. -/
structure CycleSearch (ν : Type) [Label ν] where
  path : List ν
  pending : List (List ν)
  visiting : NameSet ν
  done : NameSet ν
deriving DecidableEq, Repr

namespace CycleSearch

variable {ν : Type} [Label ν]

/-- The walk before its first step. -/
def start : CycleSearch ν :=
  ⟨[], [], ∅, ∅⟩

/-- Puts a name at the end of the path. -/
def enter (targets : ν → List ν) (name : ν) (state : CycleSearch ν) : CycleSearch ν :=
  { path := name :: state.path
    pending := targets name :: state.pending
    visiting := state.visiting.insert name
    done := state.done }

/-- The cycle closed by an edge back to a name on the path: the path from that name on, and the
name again. -/
def closedBy (target : ν) (path : List ν) : List ν :=
  (path.reverse.dropWhile fun name => !Label.same name target) ++ [target]

/-- One step: follow the next edge of the last name on the path, or leave that name. Fails with
the cycle that the edge closes. -/
def step (targets : ν → List ν) (state : CycleSearch ν) :
    Except (List ν) (CycleSearch ν) :=
  match state.path, state.pending with
  | name :: path, [] :: pending =>
    .ok ⟨path, pending, state.visiting.erase name, state.done.insert name⟩
  | _, (target :: rest) :: pending =>
    if target ∈ state.visiting then .error (closedBy target state.path)
    else
      let followed := { state with pending := rest :: pending }
      if target ∈ state.done then .ok followed else .ok (enter targets target followed)
  | _, _ => .ok state

/-- Steps until the path is empty. -/
def run (targets : ν → List ν) : Nat → CycleSearch ν → Except (List ν) (CycleSearch ν)
  | 0, state => .ok state
  | fuel + 1, state =>
    if state.pending.isEmpty then .ok state
    else
      match step targets state with
      | .ok next => run targets fuel next
      | .error cycle => .error cycle

/-- Walks everything below one name, unless the walk is done with it. -/
def visit (targets : ν → List ν) (fuel : Nat) (state : CycleSearch ν) (root : ν) :
    Except (List ν) (CycleSearch ν) :=
  if root ∈ state.done then .ok state else run targets fuel (enter targets root state)

/-- A number of steps that suffices: one for each name and one for each edge. -/
def bound (targets : ν → List ν) (names : List ν) : Nat :=
  names.foldr (fun name total => (targets name).length + 1 + total) 0

/-- Walks everything below the given names, in their order; fails with the first cycle met. -/
def walk (targets : ν → List ν) (names : List ν) :
    Except (List ν) (CycleSearch ν) :=
  names.foldlM (visit targets (bound targets names)) start

end CycleSearch

end FeatureResolution
