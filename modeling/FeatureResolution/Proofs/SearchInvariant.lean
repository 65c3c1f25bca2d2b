import FeatureResolution.Proofs.ReportedCycle

/-!
# What holds in every iteration of the search for a cycle

The search walks from one root after the other. An iteration either takes a step of the walk or,
when nothing is pending any more, turns to the next root (`Advances`); `Runs` counts the iterations
and lists the names in the order in which they enter the path.

`Consistent` is the invariant of the loop in terms of positions on the path: it follows from the
invariant that every step and every new root keep (`Advances.invariant`). A name enters the path
only when it is neither on it nor done (`Advances.gains`), so the names that have entered are those
on the path and those done, each listed once (`Runs.logged`). An iteration takes at least one off
the iterations that can still follow (`Advances.load_lt`). When none can follow, the search has the
outcome of the walk (`Runs.walk_eq`): that is shown from the end back, since an iteration does not
change how the search settles (`Advances.settles`).

Result: every iteration finds the state consistent and the target of a closing edge on the path, no
name enters the path twice, and after at most two iterations for each name and one for each edge the
search has ended, with a cycle or done with exactly the declared names.
-/

namespace FeatureResolution

namespace CycleSearch

variable {targets : String → List String} {names : List String}

/-! ## Iterations -/

/-- A search under way: the roots still to be walked from and the state of the walk. -/
structure Search where
  roots : List String
  state : CycleSearch String

/-- One iteration: a step of the walk while there is something pending, and otherwise the next root,
which is passed over when it is done and entered when it is not. -/
inductive Advances (targets : String → List String) : Search → Search → Prop
  | step {roots : List String} {state next : CycleSearch String} : state.pending ≠ [] →
      step targets state = .ok next → Advances targets ⟨roots, state⟩ ⟨roots, next⟩
  | known {root : String} {roots : List String} {state : CycleSearch String} :
      state.pending = [] → root ∈ state.done →
      Advances targets ⟨root :: roots, state⟩ ⟨roots, state⟩
  | root {root : String} {roots : List String} {state : CycleSearch String} :
      state.pending = [] → root ∉ state.done →
      Advances targets ⟨root :: roots, state⟩ ⟨roots, enter targets root state⟩

/-- A search that has come to its end: no root is left and nothing is pending, or the next edge
closes a cycle. -/
inductive Ends (targets : String → List String) :
    Search → Except (List String) (CycleSearch String) → Prop
  | ok {state : CycleSearch String} : state.pending = [] → Ends targets ⟨[], state⟩ (.ok state)
  | error {roots : List String} {state : CycleSearch String} {cycle : List String} :
      state.pending ≠ [] → step targets state = .error cycle →
      Ends targets ⟨roots, state⟩ (.error cycle)

/-- Some iterations in a row, counted, with the names that enter the path in their order. -/
inductive Runs (targets : String → List String) (first : Search) :
    Nat → List String → Search → Prop
  | refl : Runs targets first 0 [] first
  | next {count : Nat} {entered : List String} {search next : Search} :
      Runs targets first count entered search → Advances targets search next →
      Runs targets first (count + 1) (entered ++ gained search.state next.state) next

/-- How the parts of a state hang together. The path is read from its first name on. -/
structure Consistent (targets : String → List String) (state : CycleSearch String) : Prop where
  even : state.path.length = state.pending.length
  distinct : state.path.Nodup
  linked : state.path.reverse.IsChain (Edge targets)
  visiting : ∀ name, name ∈ state.visiting ↔ name ∈ state.path
  apart : ∀ name ∈ state.done, name ∉ state.visiting
  closed : ∀ name ∈ state.done, ∀ target ∈ targets name, target ∈ state.done
  drawn : ∀ position name rest, state.path.reverse[position]? = some name →
    state.pending.reverse[position]? = some rest →
    ∃ drawn, targets name = drawn ++ rest ∧
      ∀ target ∈ drawn, target ∈ state.done ∨ state.path.reverse[position + 1]? = some target

/-! ## Every iteration keeps the state consistent -/

theorem Advances.invariant {search next : Search} (advances : Advances targets search next)
    (invariant : Invariant targets search.state) : Invariant targets next.state := by
  cases advances with
  | step active stepped => exact invariant.move (invariant.move_of_step active stepped)
  | known _ _ => exact invariant
  | root nonePending fresh =>
    exact invariant.enter_root (invariant.pending_eq_nil_iff.1 nonePending) fresh

theorem Runs.invariant {roots : List String} {count : Nat} {entered : List String}
    {search : Search} (runs : Runs targets ⟨roots, start⟩ count entered search) :
    Invariant targets search.state := by
  induction runs with
  | refl => exact invariant_start targets
  | next _ advances ih => exact advances.invariant ih

/-- What the name at a position of a path has drawn. The path starts with the name entered last, so
the name that follows on it is the one before. -/
theorem Trail.drawn_at {done : NameSet String} {entered : Option String} {path : List String}
    {pending : List (List String)} (trail : Trail targets done entered path pending)
    {position : Nat} {name : String} {rest : List String} (named : path[position]? = some name)
    (left : pending[position]? = some rest) :
    ∃ drawn, targets name = drawn ++ rest ∧ ∀ target ∈ drawn,
      target ∈ done ∨ (entered :: path.map some)[position]? = some (some target) := by
  induction trail generalizing position with
  | nil _ => cases named
  | @cons entered head drawn _ _ _ drawing drawnDone _ _ ih =>
    cases position with
    | zero =>
      cases named
      cases left
      refine ⟨drawn, drawing, ?_⟩
      intro target present
      rcases drawnDone target present with isDone | isEntered
      · exact .inl isDone
      · exact .inr (congrArg some isEntered)
    | succ position => exact ih named left

theorem Invariant.consistent {state : CycleSearch String} (invariant : Invariant targets state) :
    Consistent targets state where
  even := invariant.trail.length_eq
  distinct := invariant.distinct
  linked := List.isChain_reverse.2 invariant.trail.chain
  visiting := invariant.visiting
  apart name finished onPath := invariant.apart name finished ((invariant.visiting name).1 onPath)
  closed := invariant.closed
  drawn position name rest named left := by
    have inPath : position < state.path.length := by
      simpa using (List.getElem?_eq_some_iff.1 named).1
    have even := invariant.trail.length_eq
    -- A trail counts positions from the name entered last, so its successor is one position less.
    rw [List.getElem?_reverse inPath] at named
    rw [List.getElem?_reverse (even ▸ inPath), ← even] at left
    obtain ⟨drawn, drawing, drawnDone⟩ := invariant.trail.drawn_at named left
    refine ⟨drawn, drawing, ?_⟩
    intro target present
    refine (drawnDone target present).imp_right ?_
    intro follows
    cases back : state.path.length - 1 - position with
    | zero =>
      rw [back] at follows
      cases follows
    | succ before =>
      rw [back, List.getElem?_cons_succ, List.getElem?_map] at follows
      obtain ⟨found, atBefore, same⟩ := Option.map_eq_some_iff.1 follows
      cases same
      rw [List.getElem?_reverse (by omega), ← atBefore]
      congr 1
      omega

/-! ## Names enter the path once -/

/-- An iteration puts nothing on the path, or a name that the walk has not come to yet. -/
theorem Advances.gains {search next : Search} (advances : Advances targets search next)
    (invariant : Invariant targets search.state) :
    (gained search.state next.state = [] ∧
        ∀ name, Met next.state name ↔ Met search.state name) ∨
      ∃ name, gained search.state next.state = [name] ∧ ¬ Met search.state name ∧
        ∀ other, Met next.state other ↔ other = name ∨ Met search.state other := by
  cases advances with
  | known _ _ => exact .inl ⟨by simp [gained], fun _ => Iff.rfl⟩
  | @root root _ state nonePending fresh =>
    have noPath : state.path = [] := invariant.pending_eq_nil_iff.1 nonePending
    refine .inr ⟨root, by simp [gained, enter, noPath], by simp [Met, noPath, fresh], ?_⟩
    exact fun _ => met_enter_iff
  | step active stepped =>
    rcases (invariant.move_of_step active stepped).gains invariant with
      nothing | ⟨_, target, _, entering⟩
    · exact .inl nothing
    · exact .inr ⟨target, entering⟩

/-- The names that have entered the path are those that the walk has come to, each listed once. -/
theorem Runs.logged {roots : List String} {count : Nat} {entered : List String} {search : Search}
    (runs : Runs targets ⟨roots, start⟩ count entered search) :
    entered.Nodup ∧ ∀ name, name ∈ entered ↔ Met search.state name := by
  induction runs with
  | refl => exact ⟨.nil, fun name => by simp [Met, start]⟩
  | next before advances ih =>
    obtain ⟨once, logged⟩ := ih
    rcases advances.gains before.invariant with ⟨nothing, same⟩ | ⟨name, entering, fresh, meets⟩
    · rw [nothing, List.append_nil]
      exact ⟨once, fun other => (logged other).trans (same other).symm⟩
    · rw [entering]
      refine ⟨?_, fun other => ?_⟩
      · refine once.append (List.nodup_singleton name) ?_
        rw [List.disjoint_singleton]
        exact fun already => fresh ((logged name).1 already)
      · rw [List.mem_append, List.mem_singleton, logged, meets, or_comm]

/-! ## The number of iterations -/

/-- The iterations that can still follow: one for each root and the steps of the walk. -/
def load (targets : String → List String) (names : List String) (search : Search) : Nat :=
  search.roots.length + remaining targets names search.state

theorem Advances.roots_subset {search next : Search} (advances : Advances targets search next)
    (within : search.roots ⊆ names) : next.roots ⊆ names := by
  cases advances with
  | step _ _ => exact within
  | known _ _ => exact List.subset_of_cons_subset within
  | root _ _ => exact List.subset_of_cons_subset within

theorem Advances.load_lt (confined : Confined targets names) {search next : Search}
    (advances : Advances targets search next) (invariant : Invariant targets search.state)
    (within : search.roots ⊆ names) : load targets names next < load targets names search := by
  cases advances with
  | @step _ state after active stepped =>
    have fewer : remaining targets names after < remaining targets names state :=
      remaining_move confined invariant (invariant.move_of_step active stepped)
    simp only [load]
    omega
  | known _ _ => simp [load]
  | @root root _ state nonePending fresh =>
    have noMore : remaining targets names (enter targets root state) ≤
        remaining targets names state :=
      remaining_enter invariant (invariant.pending_eq_nil_iff.1 nonePending)
        (within List.mem_cons_self) fresh
    simp only [load, List.length_cons]
    omega

theorem bound_eq (targets : String → List String) (names : List String) :
    bound targets names = names.length + (names.map fun name => (targets name).length).sum := by
  rw [bound_eq_sum]
  induction names with
  | nil => rfl
  | cons head rest ih =>
    simp only [List.map_cons, List.sum_cons, List.length_cons, ih, cost]
    omega

/-- Iterations done and iterations that can follow are together no more than at the start. -/
theorem Runs.count_add_load_le (confined : Confined targets names) {count : Nat}
    {entered : List String} {search : Search}
    (runs : Runs targets ⟨names, start⟩ count entered search) :
    search.roots ⊆ names ∧
      count + load targets names search ≤ names.length + bound targets names := by
  induction runs with
  | refl =>
    have noMore : remaining targets names start ≤ bound targets names :=
      remaining_le_bound (invariant_start targets) rfl
    refine ⟨List.Subset.refl names, ?_⟩
    simp only [load]
    omega
  | next before advances ih =>
    obtain ⟨within, bounded⟩ := ih
    have fewer := advances.load_lt confined before.invariant within
    exact ⟨advances.roots_subset within, by omega⟩

/-! ## How the search ends -/

/-- How a search goes on to its end, the walk at hand first and then the other roots. -/
inductive Settles (targets : String → List String) :
    Search → Except (List String) (CycleSearch String) → Prop
  | walk {roots : List String} {state rest : CycleSearch String}
      {outcome : Except (List String) (CycleSearch String)} :
      Completes targets state (.ok rest) → Traverses targets roots rest outcome →
      Settles targets ⟨roots, state⟩ outcome
  | error {roots : List String} {state : CycleSearch String} {cycle : List String} :
      Completes targets state (.error cycle) → Settles targets ⟨roots, state⟩ (.error cycle)

theorem Ends.not_advances {search next : Search}
    {outcome : Except (List String) (CycleSearch String)} (ends : Ends targets search outcome) :
    ¬ Advances targets search next := by
  intro advances
  cases ends with
  | ok nonePending =>
    cases advances with
    | step active _ => exact active nonePending
  | error active stepped =>
    cases advances with
    | step _ again => cases stepped.symm.trans again
    | known nonePending _ => exact active nonePending
    | root nonePending _ => exact active nonePending

theorem Ends.settles {search : Search} {outcome : Except (List String) (CycleSearch String)}
    (ends : Ends targets search outcome) : Settles targets search outcome := by
  cases ends with
  | ok nonePending => exact .walk (.rest nonePending) (.nil _)
  | error active stepped => exact .error (.error active stepped)

/-- A search that has nothing pending settles as the walks from its roots do. -/
theorem Settles.traverses {roots : List String} {state : CycleSearch String}
    {outcome : Except (List String) (CycleSearch String)} (nonePending : state.pending = [])
    (settles : Settles targets ⟨roots, state⟩ outcome) :
    Traverses targets roots state outcome := by
  cases settles with
  | walk completes traverses =>
    cases completes.unique (.rest nonePending)
    exact traverses
  | error completes => cases completes.unique (.rest nonePending)

theorem Advances.settles {search next : Search}
    {outcome : Except (List String) (CycleSearch String)}
    (advances : Advances targets search next) (settles : Settles targets next outcome) :
    Settles targets search outcome := by
  cases advances with
  | step active stepped =>
    cases settles with
    | walk completes traverses => exact .walk (.next active stepped completes) traverses
    | error completes => exact .error (.next active stepped completes)
  | known nonePending finished =>
    exact .walk (.rest nonePending) (.known finished (settles.traverses nonePending))
  | root nonePending fresh =>
    refine .walk (.rest nonePending) ?_
    cases settles with
    | walk completes traverses => exact .visit fresh completes traverses
    | error completes => exact .error fresh completes

/-- However a search ends, the walk from its roots has that outcome. -/
theorem Runs.walk_eq (confined : Confined targets names) {count : Nat} {entered : List String}
    {search : Search} {outcome : Except (List String) (CycleSearch String)}
    (runs : Runs targets ⟨names, start⟩ count entered search)
    (ends : Ends targets search outcome) : walk targets names = outcome := by
  have settles : Settles targets ⟨names, start⟩ outcome := by
    have last := ends.settles
    clear ends
    induction runs with
    | refl => exact last
    | next _ advances ih => exact ih (advances.settles last)
  exact (traverses_walk confined).unique (settles.traverses rfl)

/-- A search that has not come to its end goes on. -/
theorem advances_or_ends (targets : String → List String) (search : Search) :
    (∃ next, Advances targets search next) ∨ ∃ outcome, Ends targets search outcome := by
  obtain ⟨roots, state⟩ := search
  by_cases nonePending : state.pending = []
  · cases roots with
    | nil => exact .inr ⟨_, .ok nonePending⟩
    | cons root roots =>
      by_cases finished : root ∈ state.done
      · exact .inl ⟨_, .known nonePending finished⟩
      · exact .inl ⟨_, .root nonePending finished⟩
  · cases stepped : step targets state with
    | ok next => exact .inl ⟨_, .step nonePending stepped⟩
    | error cycle => exact .inr ⟨_, .error nonePending stepped⟩

/-- From every iteration the search comes to its end. -/
theorem Runs.exists_ends (confined : Confined targets names) {count : Nat}
    {entered : List String} {search : Search}
    (runs : Runs targets ⟨names, start⟩ count entered search) :
    ∃ count entered last, Runs targets ⟨names, start⟩ count entered last ∧
      Ends targets last (walk targets names) := by
  induction left : load targets names search using Nat.strong_induction_on
    generalizing count entered search with
  | _ bound ih =>
    rcases advances_or_ends targets search with ⟨next, advances⟩ | ⟨outcome, ends⟩
    · have fewer := advances.load_lt confined runs.invariant (runs.count_add_load_le confined).1
      exact ih _ (left ▸ fewer) (runs.next advances) rfl
    · have sameOutcome := runs.walk_eq confined ends
      exact ⟨count, entered, search, runs, sameOutcome ▸ ends⟩

/-! ## The closing edge -/

/-- The target of an edge that closes a cycle has a position on the path, and the cycle is the path
from that position on. -/
theorem Consistent.closedBy_eq {state : CycleSearch String} (consistent : Consistent targets state)
    {target : String} (onPath : target ∈ state.visiting) :
    ∃ position, state.path.reverse.idxOf? target = some position ∧
      closedBy target state.path = state.path.reverse.drop position ++ [target] := by
  have present : target ∈ state.path.reverse :=
    List.mem_reverse.2 ((consistent.visiting target).1 onPath)
  obtain ⟨position, found⟩ := Option.isSome_iff_exists.1 (List.isSome_idxOf?.2 present)
  refine ⟨position, found, ?_⟩
  have sameTest : (fun name : String => !(!Label.same name target)) =
      fun name => name == target := by
    funext name
    rw [Bool.not_not, Label.same_text]
    rfl
  rw [closedBy, List.dropWhile_eq_drop_findIdx_not, sameTest,
    (List.findIdx?_eq_some_iff_findIdx_eq.1 found).2]

/-- The next edge, when it leads back to the path. -/
theorem Consistent.step_closes {state : CycleSearch String} (consistent : Consistent targets state)
    {target : String} {rest : List String} {pending : List (List String)}
    (atEdge : state.pending = (target :: rest) :: pending) (onPath : target ∈ state.visiting) :
    ∃ position, state.path.reverse.idxOf? target = some position ∧
      step targets state = .error (state.path.reverse.drop position ++ [target]) := by
  obtain ⟨position, found, closes⟩ := consistent.closedBy_eq onPath
  refine ⟨position, found, ?_⟩
  rw [← closes]
  obtain ⟨path, _, visiting, done⟩ := state
  cases atEdge
  rw [step_target, if_pos onPath]

end CycleSearch

namespace Registry

open CycleSearch

variable {flags : List (Flag String)}

/-! ## Results -/

/-- What the check for cycles makes of a search that has come to its end. -/
theorem checkAcyclic_of_ends (confined : Confined (targets flags) (flags.map (·.name)))
    {count : Nat} {entered : List String} {search : Search}
    {outcome : Except (List String) (CycleSearch String)}
    (runs : Runs (targets flags) ⟨flags.map (·.name), CycleSearch.start⟩ count entered search)
    (ends : Ends (targets flags) search outcome) :
    (checkAcyclic flags = .ok () ∧ search.roots = [] ∧ search.state.pending = [] ∧
        ∀ name, name ∈ search.state.done ↔ Declared flags name) ∨
      ∃ cycle, step (targets flags) search.state = .error cycle ∧
        checkAcyclic flags = .error (.implicationCycle cycle) := by
  have walked := runs.walk_eq confined ends
  cases ends with
  | ok nonePending =>
    obtain ⟨_, _, covered⟩ := walk_ok_done confined walked
    exact .inl ⟨by rw [checkAcyclic, walked], rfl, nonePending, covered⟩
  | error _ stepped => exact .inr ⟨_, stepped, by simp [checkAcyclic, walked, cycleError]⟩

/-- In every iteration of the search for cycles among flags whose implications are declared, the
state is consistent and a closing edge leads to a position on the path; the names that have entered
the path, none of them twice, are those on it and those done; there have been at most two iterations
for each flag and one for each implication; and the search goes on, or it has found no cycle and is
done with exactly the declared names, or it reports the cycle that it has come to. So the search
comes to its end. -/
theorem checkAcyclic_invariant (flags : List (Flag String))
    (declared : ∀ flag ∈ flags, ∀ target ∈ flag.implies, Declared flags target) :
    (∀ count entered search,
      Runs (targets flags) ⟨flags.map (·.name), CycleSearch.start⟩ count entered search →
      Consistent (impliedInOrder flags) search.state ∧
      (∀ target rest pending, search.state.pending = (target :: rest) :: pending →
        target ∈ search.state.visiting →
        ∃ position, search.state.path.reverse.idxOf? target = some position ∧
          step (targets flags) search.state =
            .error (search.state.path.reverse.drop position ++ [target])) ∧
      entered.Nodup ∧
      (∀ name, name ∈ entered ↔ name ∈ search.state.path ∨ name ∈ search.state.done) ∧
      count ≤ 2 * flags.length +
        (flags.map fun flag => (impliedInOrder flags flag.name).length).sum ∧
      ((∃ next, Advances (targets flags) search next) ∨
        (checkAcyclic flags = .ok () ∧ search.roots = [] ∧ search.state.pending = [] ∧
          ∀ name, name ∈ search.state.done ↔ Declared flags name) ∨
        ∃ cycle, step (targets flags) search.state = .error cycle ∧
          checkAcyclic flags = .error (.implicationCycle cycle))) ∧
    ∃ count entered last,
      Runs (targets flags) ⟨flags.map (·.name), CycleSearch.start⟩ count entered last ∧
      ¬ ∃ next, Advances (targets flags) last next := by
  have followed : targets flags = impliedInOrder flags := funext (targets_text flags)
  have confined : Confined (targets flags) (flags.map (·.name)) :=
    followed ▸ confined_impliedInOrder declared
  refine ⟨fun count entered search runs => ?_, ?_⟩
  · have consistent : Consistent (targets flags) search.state := runs.invariant.consistent
    obtain ⟨once, logged⟩ := runs.logged
    refine ⟨followed ▸ consistent, ?_, once, logged, ?_, ?_⟩
    · intro target rest pending atEdge onPath
      exact consistent.step_closes atEdge onPath
    · have bounded := (runs.count_add_load_le confined).2
      rw [bound_eq, followed, List.length_map, List.map_map] at bounded
      have sameSum : (flags.map ((fun name => (impliedInOrder flags name).length) ∘ (·.name))).sum =
          (flags.map fun flag => (impliedInOrder flags flag.name).length).sum := rfl
      omega
    · rcases advances_or_ends (targets flags) search with advances | ⟨outcome, ends⟩
      · exact .inl advances
      · exact .inr (checkAcyclic_of_ends confined runs ends)
  · obtain ⟨count, entered, last, runs, ends⟩ := Runs.refl.exists_ends confined
    exact ⟨count, entered, last, runs, fun ⟨next, advances⟩ => ends.not_advances advances⟩

/-- The search among flags two of which imply each other ends at the edge that closes the cycle. -/
theorem checkAcyclic_invariant_loopWithTails :
    (∀ flag ∈ loopWithTails, ∀ target ∈ flag.implies, Declared loopWithTails target) ∧
      ∃ count entered last,
        Runs (targets loopWithTails) ⟨["app", "left", "right", "base"], CycleSearch.start⟩ count
          entered last ∧
        Consistent (impliedInOrder loopWithTails) last.state ∧ entered.Nodup ∧ count ≤ 14 ∧
        step (targets loopWithTails) last.state = .error ["left", "right", "left"] := by
  have declared : ∀ flag ∈ loopWithTails, ∀ target ∈ flag.implies,
      Declared loopWithTails target := by
    simp [loopWithTails, Declared]
  have reported : checkAcyclic loopWithTails =
      .error (.implicationCycle ["left", "right", "left"]) := rfl
  obtain ⟨always, count, entered, last, runs, ended⟩ :=
    checkAcyclic_invariant loopWithTails declared
  obtain ⟨consistent, _, once, _, bounded, goesOn | ⟨passed, _⟩ | ⟨cycle, closes, failed⟩⟩ :=
    always count entered last runs
  · exact absurd goesOn ended
  · cases passed.symm.trans reported
  · cases failed.symm.trans reported
    exact ⟨declared, count, entered, last, runs, consistent, once, bounded, closes⟩

end Registry

end FeatureResolution
