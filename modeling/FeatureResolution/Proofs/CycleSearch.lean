import FeatureResolution.CycleSearch
import FeatureResolution.Proofs.Graph
import Mathlib.Algebra.Order.BigOperators.Group.List
import Mathlib.Algebra.Order.Ring.Nat

/-!
# The search for a cycle finds one exactly when there is one

The walk keeps four pieces of state in step: the path, the targets pending on it, the set of names
on the path and the set of names it is done with. `Invariant` says how they hang together:

1. each name on the path has drawn some of its targets, in their order; what it has drawn is done,
   but for the target entered last, which is the next name on the path (`Trail`);
2. the path has no repeats, and the set of names on the path is exactly the path;
3. a name that is done is not on the path, all its targets are done, and every walk from it ends.

Every step keeps the invariant (`Invariant.move`) and lowers the number of steps that can still
follow (`remaining_move`). So the walk comes to its end by itself: `Completes` and `Traverses`
describe it without any bound on its steps, and the bounded walk is that one (`traverses_walk`).

Results:
1. `walk_error_simpleCycle`: a walk that fails reports a simple cycle;
2. `walk_ok_done`: a walk that does not fail is done with exactly the given names;
3. `walk_ok_iff`: it does not fail exactly when the graph has no cycle.
-/

namespace FeatureResolution.CycleSearch

open Relation

/-- The edges of the graph that a walk follows. -/
def Edge (targets : String → List String) (source target : String) : Prop :=
  target ∈ targets source

/-- Every target of a name is one of the names. -/
def Confined (targets : String → List String) (names : List String) : Prop :=
  ∀ name, ∀ target ∈ targets name, name ∈ names ∧ target ∈ names

/-! ## Steps -/

/-- What one step can do while there is a path. -/
inductive Move (targets : String → List String) :
    CycleSearch String → Except (List String) (CycleSearch String) → Prop
  | leave (name : String) (path : List String) (pending : List (List String))
      (visiting done : NameSet String) :
      Move targets ⟨name :: path, [] :: pending, visiting, done⟩
        (.ok ⟨path, pending, visiting.erase name, done.insert name⟩)
  | skip {name target : String} {path rest : List String} {pending : List (List String)}
      {visiting done : NameSet String} : target ∉ visiting → target ∈ done →
      Move targets ⟨name :: path, (target :: rest) :: pending, visiting, done⟩
        (.ok ⟨name :: path, rest :: pending, visiting, done⟩)
  | descend {name target : String} {path rest : List String} {pending : List (List String)}
      {visiting done : NameSet String} : target ∉ visiting → target ∉ done →
      Move targets ⟨name :: path, (target :: rest) :: pending, visiting, done⟩
        (.ok ⟨target :: name :: path, targets target :: rest :: pending,
          visiting.insert target, done⟩)
  | close {name target : String} {path rest : List String} {pending : List (List String)}
      {visiting done : NameSet String} : target ∈ visiting →
      Move targets ⟨name :: path, (target :: rest) :: pending, visiting, done⟩
        (.error (closedBy target (name :: path)))

theorem step_move (targets : String → List String) {state : CycleSearch String}
    (even : state.path.length = state.pending.length) (active : state.pending ≠ []) :
    Move targets state (step targets state) := by
  obtain ⟨path, pending, visiting, done⟩ := state
  match path, pending with
  | _, [] => exact absurd rfl active
  | [], _ :: _ => cases even
  | name :: path, [] :: pending => exact .leave name path pending visiting done
  | name :: path, (target :: rest) :: pending =>
    simp only [step]
    split
    · next onPath => exact .close onPath
    · next offPath =>
      split
      · next finished => exact .skip offPath finished
      · next fresh => exact .descend offPath fresh

/-- Steps without a bound: `Completes targets state outcome` says that the walk comes from `state`
to its end with `outcome`. -/
inductive Completes (targets : String → List String) :
    CycleSearch String → Except (List String) (CycleSearch String) → Prop
  | rest {state : CycleSearch String} : state.pending = [] → Completes targets state (.ok state)
  | error {state : CycleSearch String} {cycle : List String} : state.pending ≠ [] →
      step targets state = .error cycle → Completes targets state (.error cycle)
  | next {state next : CycleSearch String} {outcome : Except (List String) (CycleSearch String)} :
      state.pending ≠ [] → step targets state = .ok next → Completes targets next outcome →
      Completes targets state outcome

/-- Walks from one name after the other, each without a bound on its steps. -/
inductive Traverses (targets : String → List String) :
    List String → CycleSearch String → Except (List String) (CycleSearch String) → Prop
  | nil (state : CycleSearch String) : Traverses targets [] state (.ok state)
  | known {root : String} {roots : List String} {state : CycleSearch String}
      {outcome : Except (List String) (CycleSearch String)} : root ∈ state.done →
      Traverses targets roots state outcome → Traverses targets (root :: roots) state outcome
  | visit {root : String} {roots : List String} {state next : CycleSearch String}
      {outcome : Except (List String) (CycleSearch String)} : root ∉ state.done →
      Completes targets (enter targets root state) (.ok next) →
      Traverses targets roots next outcome → Traverses targets (root :: roots) state outcome
  | error {root : String} {roots : List String} {state : CycleSearch String}
      {cycle : List String} : root ∉ state.done →
      Completes targets (enter targets root state) (.error cycle) →
      Traverses targets (root :: roots) state (.error cycle)

/-! ## The invariant -/

/-- What the names of a path have drawn of their targets. `entered` is the target that the first
name of the path was left for, if it was; the others drawn are done. -/
inductive Trail (targets : String → List String) (done : NameSet String) :
    Option String → List String → List (List String) → Prop
  | nil (entered : Option String) : Trail targets done entered [] []
  | cons {entered : Option String} {name : String} {drawn rest path : List String}
      {pending : List (List String)} : targets name = drawn ++ rest →
      (∀ target ∈ drawn, target ∈ done ∨ entered = some target) →
      (∀ target, entered = some target → target ∈ drawn) →
      Trail targets done (some name) path pending →
      Trail targets done entered (name :: path) (rest :: pending)

/-- How the state of a walk hangs together. -/
structure Invariant (targets : String → List String) (state : CycleSearch String) : Prop where
  trail : Trail targets state.done none state.path state.pending
  distinct : state.path.Nodup
  visiting : ∀ name, name ∈ state.visiting ↔ name ∈ state.path
  apart : ∀ name ∈ state.done, name ∉ state.path
  closed : ∀ name ∈ state.done, ∀ target ∈ targets name, target ∈ state.done
  ends : ∀ name ∈ state.done, Acc (flip (Edge targets)) name

theorem Trail.length_eq {targets : String → List String} {done : NameSet String}
    {entered : Option String} {path : List String} {pending : List (List String)}
    (trail : Trail targets done entered path pending) : path.length = pending.length := by
  induction trail with
  | nil _ => rfl
  | cons _ _ _ _ ih => simp [ih]

theorem Trail.chain {targets : String → List String} {done : NameSet String}
    {entered : Option String} {path : List String} {pending : List (List String)}
    (trail : Trail targets done entered path pending) : path.IsChain (flip (Edge targets)) := by
  induction trail with
  | nil _ => exact .nil
  | cons _ _ _ below ih =>
    cases below with
    | nil _ => exact .singleton _
    | cons drawing _ enteredDrawn _ =>
      refine .cons_cons ?_ ih
      have drawn := enteredDrawn _ rfl
      show _ ∈ targets _
      rw [drawing]
      exact List.mem_append_left _ drawn

/-- Being done with more names takes nothing from what a trail says. -/
theorem Trail.mono {targets : String → List String} {done more : NameSet String}
    {entered : Option String} {path : List String} {pending : List (List String)}
    (subset : done ⊆ more) (trail : Trail targets done entered path pending) :
    Trail targets more entered path pending := by
  induction trail with
  | nil entered => exact .nil entered
  | cons drawing drawnDone enteredDrawn _ ih =>
    refine .cons drawing (fun target drawn => ?_) enteredDrawn ih
    exact (drawnDone target drawn).imp (subset target) id

/-- Once the name entered last is done, nothing is entered any more. -/
theorem Trail.settle {targets : String → List String} {done : NameSet String} {name : String}
    {path : List String} {pending : List (List String)} (finished : name ∈ done)
    (trail : Trail targets done (some name) path pending) :
    Trail targets done none path pending := by
  cases trail with
  | nil _ => exact .nil none
  | cons drawing drawnDone _ below =>
    refine .cons drawing (fun target drawn => .inl ?_) (by simp) below
    rcases drawnDone target drawn with isDone | entered
    · exact isDone
    · cases entered
      exact finished

theorem Invariant.pending_eq_nil_iff {targets : String → List String}
    {state : CycleSearch String} (invariant : Invariant targets state) :
    state.pending = [] ↔ state.path = [] := by
  rw [← List.length_eq_zero_iff, ← invariant.trail.length_eq, List.length_eq_zero_iff]

theorem Invariant.move_of_step {targets : String → List String} {state : CycleSearch String}
    {result : Except (List String) (CycleSearch String)} (invariant : Invariant targets state)
    (active : state.pending ≠ []) (stepped : step targets state = result) :
    Move targets state result :=
  stepped ▸ step_move targets invariant.trail.length_eq active

theorem invariant_start (targets : String → List String) : Invariant targets start where
  trail := .nil none
  distinct := .nil
  visiting name := by simp [start]
  apart name present := absurd present (NameSet.not_mem_empty name)
  closed name present := absurd present (NameSet.not_mem_empty name)
  ends name present := absurd present (NameSet.not_mem_empty name)

/-- Entering the first name of a walk. -/
theorem Invariant.enter_root {targets : String → List String} {state : CycleSearch String}
    {root : String} (invariant : Invariant targets state) (atRest : state.path = [])
    (fresh : root ∉ state.done) : Invariant targets (enter targets root state) := by
  obtain ⟨path, pending, visiting, done⟩ := state
  obtain ⟨trail, _, visitingPath, _, closed, ends⟩ := invariant
  cases atRest
  cases trail
  refine ⟨?_, ?_, fun name => ?_, fun name finished => ?_, closed, ends⟩
  · exact .cons (List.nil_append _).symm (by simp) (by simp) (.nil _)
  · simp [enter]
  · simp [enter, visitingPath, eq_comm]
  · have different : name ≠ root := fun same => fresh (same ▸ finished)
    simpa [enter] using different

theorem Invariant.leave {targets : String → List String} {name : String} {path : List String}
    {pending : List (List String)} {visiting done : NameSet String}
    (invariant : Invariant targets ⟨name :: path, [] :: pending, visiting, done⟩) :
    Invariant targets ⟨path, pending, visiting.erase name, done.insert name⟩ := by
  obtain ⟨trail, distinct, visitingPath, apart, closed, ends⟩ := invariant
  obtain ⟨notBelow, belowDistinct⟩ := List.nodup_cons.1 distinct
  have grows : done ⊆ done.insert name := fun other finished =>
    NameSet.mem_insert_text.2 (.inr finished)
  -- Nothing is pending, so all targets were drawn, and nothing is entered, so all drawn are done.
  have targetsDone : ∀ target ∈ targets name, target ∈ done := by
    cases trail with
    | cons drawing drawnDone _ _ =>
      intro target present
      rw [drawing, List.append_nil] at present
      simpa using drawnDone target present
  refine ⟨?_, belowDistinct, fun other => ?_, fun other finished => ?_,
    fun other finished => ?_, fun other finished => ?_⟩
  · cases trail with
    | cons _ _ _ below => exact (below.mono grows).settle (NameSet.mem_insert_text.2 (.inl rfl))
  · have onPath := visitingPath other
    simp only [List.mem_cons] at onPath
    simp only [NameSet.mem_erase, onPath]
    constructor
    · rintro ⟨rfl | below, different⟩
      · exact absurd rfl different
      · exact below
    · exact fun below => ⟨.inr below, fun same => notBelow (same ▸ below)⟩
  · rcases NameSet.mem_insert_text.1 finished with rfl | before
    · exact notBelow
    · exact fun below => apart other before (List.mem_cons_of_mem _ below)
  · rcases NameSet.mem_insert_text.1 finished with rfl | before
    · exact fun target present => grows target (targetsDone target present)
    · exact fun target present => grows target (closed other before target present)
  · rcases NameSet.mem_insert_text.1 finished with rfl | before
    · exact .intro other fun target step => ends target (targetsDone target step)
    · exact ends other before

theorem Invariant.skip {targets : String → List String} {name target : String}
    {path rest : List String} {pending : List (List String)} {visiting done : NameSet String}
    (invariant : Invariant targets ⟨name :: path, (target :: rest) :: pending, visiting, done⟩)
    (finished : target ∈ done) :
    Invariant targets ⟨name :: path, rest :: pending, visiting, done⟩ := by
  obtain ⟨trail, distinct, visitingPath, apart, closed, ends⟩ := invariant
  refine ⟨?_, distinct, visitingPath, apart, closed, ends⟩
  cases trail with
  | @cons _ _ drawn _ _ _ drawing drawnDone _ below =>
    have drawingMore : targets name = (drawn ++ [target]) ++ rest := by simpa using drawing
    refine .cons drawingMore ?_ (by simp) below
    intro other present
    rcases List.mem_append.1 present with before | last
    · exact drawnDone other before
    · exact .inl (List.mem_singleton.1 last ▸ finished)

theorem Invariant.descend {targets : String → List String} {name target : String}
    {path rest : List String} {pending : List (List String)} {visiting done : NameSet String}
    (invariant : Invariant targets ⟨name :: path, (target :: rest) :: pending, visiting, done⟩)
    (offPath : target ∉ visiting) (fresh : target ∉ done) :
    Invariant targets ⟨target :: name :: path, targets target :: rest :: pending,
      visiting.insert target, done⟩ := by
  obtain ⟨trail, distinct, visitingPath, apart, closed, ends⟩ := invariant
  have notBelow : target ∉ name :: path := fun below => offPath ((visitingPath target).2 below)
  refine ⟨?_, List.nodup_cons.2 ⟨notBelow, distinct⟩, fun other => ?_, fun other finished => ?_,
    closed, ends⟩
  · cases trail with
    | @cons _ _ drawn _ _ _ drawing drawnDone _ below =>
      have drawingMore : targets name = (drawn ++ [target]) ++ rest := by simpa using drawing
      refine .cons (List.nil_append _).symm (by simp) (by simp) ?_
      refine .cons drawingMore ?_ (by simp) below
      intro other present
      rcases List.mem_append.1 present with before | last
      · exact .inl (by simpa using drawnDone other before)
      · exact .inr (congrArg some (List.mem_singleton.1 last).symm)
  · rw [NameSet.mem_insert_text, visitingPath other]
    exact List.mem_cons.symm
  · intro onPath
    rcases List.mem_cons.1 onPath with rfl | below
    · exact fresh finished
    · exact apart other finished below

/-- Every step that does not fail keeps the invariant. -/
theorem Invariant.move {targets : String → List String} {state next : CycleSearch String}
    (invariant : Invariant targets state) (move : Move targets state (.ok next)) :
    Invariant targets next := by
  cases move with
  | leave name path pending visiting done => exact invariant.leave
  | skip _ finished => exact invariant.skip finished
  | descend offPath fresh => exact invariant.descend offPath fresh

/-! ## The cycle that a failing step reports -/

/-- The path from a name on it, up to where the walk stands. -/
theorem dropWhile_of_mem {target : String} {names : List String} (present : target ∈ names) :
    ∃ inner, (names.dropWhile fun name => !Label.same name target) = target :: inner := by
  induction names with
  | nil => cases present
  | cons head rest ih =>
    by_cases same : head = target
    · exact ⟨rest, by simp [same]⟩
    · have inRest : target ∈ rest := (List.mem_cons.1 present).resolve_left (Ne.symm same)
      obtain ⟨inner, found⟩ := ih inRest
      exact ⟨inner, by simpa [same] using found⟩

/-- A target pending on the first name of a path is one of its targets. -/
theorem Trail.edge_of_pending {targets : String → List String} {done : NameSet String}
    {entered : Option String} {name target : String} {rest path : List String}
    {pending : List (List String)}
    (trail : Trail targets done entered (name :: path) ((target :: rest) :: pending)) :
    Edge targets name target := by
  cases trail with
  | cons drawing _ _ _ =>
    show target ∈ targets name
    rw [drawing]
    simp

theorem simpleCycle_of_move {targets : String → List String} {state : CycleSearch String}
    {cycle : List String} (invariant : Invariant targets state)
    (move : Move targets state (.error cycle)) : SimpleCycle (Edge targets) cycle := by
  cases move with
  | @close name target path rest pending visiting done onPath =>
    have present : target ∈ (name :: path).reverse :=
      List.mem_reverse.2 ((invariant.visiting target).1 onPath)
    obtain ⟨inner, found⟩ := dropWhile_of_mem present
    have suffix : target :: inner <:+ (name :: path).reverse :=
      found ▸ List.dropWhile_suffix _
    have forward : (name :: path).reverse.IsChain (Edge targets) :=
      List.isChain_reverse.2 invariant.trail.chain
    have last : (target :: inner).getLast? = some name := by
      obtain ⟨before, whole⟩ := suffix
      rw [← List.getLast?_append_of_ne_nil before (by simp), whole]
      simp
    refine ⟨⟨target, inner, by rw [closedBy, found]⟩, ?_, ?_⟩
    · rw [closedBy, found, List.dropLast_concat]
      exact (List.nodup_reverse.2 invariant.distinct).sublist suffix.sublist
    · rw [closedBy, found, List.isChain_append]
      refine ⟨forward.suffix suffix, .singleton target, ?_⟩
      rw [last]
      rintro before ⟨⟩ after ⟨⟩
      exact invariant.trail.edge_of_pending

/-! ## The number of steps -/

/-- The steps it takes to walk through a name: one for each of its targets and one to leave it. -/
def cost (targets : String → List String) (name : String) : Nat :=
  (targets name).length + 1

/-- Whether the walk has come to a name. -/
def Met (state : CycleSearch String) (name : String) : Prop :=
  name ∈ state.path ∨ name ∈ state.done

instance (state : CycleSearch String) (name : String) : Decidable (Met state name) :=
  inferInstanceAs (Decidable (_ ∨ _))

/-- The steps that can still follow: those of the names not met yet, one for each target pending,
and one to leave each name on the path. -/
def remaining (targets : String → List String) (names : List String)
    (state : CycleSearch String) : Nat :=
  ((names.filter fun name => ¬ Met state name).map (cost targets)).sum +
    (state.pending.map List.length).sum + state.path.length

theorem bound_eq_sum (targets : String → List String) (names : List String) :
    bound targets names = (names.map (cost targets)).sum := by
  induction names with
  | nil => rfl
  | cons head rest ih => simp [bound, cost, ← ih]

/-- Taking a name out of a list takes at least its own weight off the sum. -/
theorem sum_filter_ne_add_le {weight : String → Nat} {names : List String} {name : String}
    (present : name ∈ names) :
    ((names.filter (· ≠ name)).map weight).sum + weight name ≤ (names.map weight).sum := by
  induction names with
  | nil => cases present
  | cons head rest ih =>
    by_cases same : head = name
    · have fewer : ((rest.filter (· ≠ name)).map weight).sum ≤ (rest.map weight).sum :=
        (List.filter_sublist.map weight).sum_le_sum fun _ _ => Nat.zero_le _
      rw [List.filter_cons_of_neg (by simp [same]), List.map_cons, List.sum_cons, same]
      omega
    · have inRest : name ∈ rest := (List.mem_cons.1 present).resolve_left (Ne.symm same)
      have ofRest := ih inRest
      rw [List.filter_cons_of_pos (by simp [same]), List.map_cons, List.sum_cons, List.map_cons,
        List.sum_cons]
      omega

/-- A name that is met for the first time gives its steps away. -/
theorem sum_met_add_le (targets : String → List String) {names : List String}
    {state : CycleSearch String} (next : CycleSearch String) {name : String}
    (present : name ∈ names) (fresh : ¬ Met state name)
    (meets : ∀ other, Met next other ↔ other = name ∨ Met state other) :
    ((names.filter fun other => ¬ Met next other).map (cost targets)).sum + cost targets name ≤
      ((names.filter fun other => ¬ Met state other).map (cost targets)).sum := by
  have split : (names.filter fun other => ¬ Met next other) =
      (names.filter fun other => ¬ Met state other).filter (· ≠ name) := by
    rw [List.filter_filter]
    refine List.filter_congr fun other _ => ?_
    simp [meets other]
  rw [split]
  exact sum_filter_ne_add_le (List.mem_filter.2 ⟨present, by simpa using fresh⟩)

/-- A name that is neither on the path nor done is new to the walk. -/
theorem Invariant.not_met {targets : String → List String} {state : CycleSearch String}
    (invariant : Invariant targets state) {name : String} (offPath : name ∉ state.visiting)
    (fresh : name ∉ state.done) : ¬ Met state name := by
  rintro (onPath | finished)
  · exact offPath ((invariant.visiting name).2 onPath)
  · exact fresh finished

/-- A name that is left stays one that the walk has come to. -/
theorem met_leave_iff {name other : String} {path : List String} {pending : List (List String)}
    {visiting done : NameSet String} :
    Met ⟨path, pending, visiting.erase name, done.insert name⟩ other ↔
      Met ⟨name :: path, [] :: pending, visiting, done⟩ other := by
  simp only [Met, NameSet.mem_insert_text, List.mem_cons]
  tauto

/-- The names put at the end of the path between two states. -/
def gained (before after : CycleSearch String) : List String :=
  after.path.take (after.path.length - before.path.length)

theorem met_enter_iff {targets : String → List String} {state : CycleSearch String}
    {root other : String} :
    Met (enter targets root state) other ↔ other = root ∨ Met state other := by
  simp [Met, enter, or_assoc]

/-- A step comes to nothing new, or it puts on the path a pending target that the walk has not come
to yet. -/
theorem Move.gains {targets : String → List String} {state next : CycleSearch String}
    (move : Move targets state (.ok next)) (invariant : Invariant targets state) :
    (gained state next = [] ∧ ∀ other, Met next other ↔ Met state other) ∨
      ∃ source target, Edge targets source target ∧ gained state next = [target] ∧
        ¬ Met state target ∧ ∀ other, Met next other ↔ other = target ∨ Met state other := by
  cases move with
  | leave name path pending visiting done =>
    exact .inl ⟨by simp [gained], fun _ => met_leave_iff⟩
  | skip _ _ => exact .inl ⟨by simp [gained], fun _ => Iff.rfl⟩
  | @descend name target _ _ _ _ _ offPath fresh =>
    refine .inr ⟨name, target, invariant.trail.edge_of_pending, by simp [gained],
      invariant.not_met offPath fresh, fun other => ?_⟩
    simp only [Met, List.mem_cons, or_assoc]

/-- A step comes to no name but the pending target that it follows. -/
theorem met_of_move {targets : String → List String} {state next : CycleSearch String}
    (invariant : Invariant targets state) (move : Move targets state (.ok next)) {name : String}
    (met : Met next name) : Met state name ∨ ∃ source, Edge targets source name := by
  rcases move.gains invariant with ⟨_, same⟩ | ⟨source, target, step, _, _, meets⟩
  · exact .inl ((same name).1 met)
  · rcases (meets name).1 met with rfl | before
    · exact .inr ⟨source, step⟩
    · exact .inl before

/-- A name that the walk has come to is never forgotten. -/
theorem met_move {targets : String → List String} {state next : CycleSearch String}
    (invariant : Invariant targets state) (move : Move targets state (.ok next)) {name : String}
    (met : Met state name) : Met next name := by
  rcases move.gains invariant with ⟨_, same⟩ | ⟨_, _, _, _, _, meets⟩
  · exact (same name).2 met
  · exact (meets name).2 (.inr met)

/-- Every step lowers the number of steps that can still follow. -/
theorem remaining_move {targets : String → List String} {names : List String}
    (confined : Confined targets names) {state next : CycleSearch String}
    (invariant : Invariant targets state) (move : Move targets state (.ok next)) :
    remaining targets names next < remaining targets names state := by
  cases move with
  | leave name path pending visiting done =>
    simp only [remaining, met_leave_iff, List.map_cons, List.sum_cons, List.length_cons,
      List.length_nil]
    omega
  | @skip name target path rest pending visiting done _ _ =>
    have same : ∀ other, Met ⟨name :: path, rest :: pending, visiting, done⟩ other ↔
        Met ⟨name :: path, (target :: rest) :: pending, visiting, done⟩ other :=
      fun _ => Iff.rfl
    simp only [remaining, same, List.map_cons, List.sum_cons, List.length_cons]
    omega
  | @descend name target path rest pending visiting done offPath fresh =>
    have declared : target ∈ names := (confined name target invariant.trail.edge_of_pending).2
    have lighter := sum_met_add_le targets ⟨target :: name :: path,
      targets target :: rest :: pending, visiting.insert target, done⟩ declared
      (invariant.not_met offPath fresh) fun other => by simp only [Met, List.mem_cons, or_assoc]
    simp only [remaining, cost, List.map_cons, List.sum_cons, List.length_cons] at lighter ⊢
    omega

/-! ## Walking below one name -/

/-- A bounded walk with enough steps left is the walk without a bound. -/
theorem completes_run {targets : String → List String} {names : List String}
    (confined : Confined targets names) {fuel : Nat} {state : CycleSearch String}
    (invariant : Invariant targets state) (enough : remaining targets names state ≤ fuel) :
    Completes targets state (run targets fuel state) := by
  induction fuel generalizing state with
  | zero =>
    have noPath : state.path.length = 0 := by
      simp only [remaining] at enough
      omega
    exact .rest (List.length_eq_zero_iff.1 (invariant.trail.length_eq ▸ noPath))
  | succ fuel ih =>
    unfold run
    by_cases atRest : state.pending = []
    · rw [if_pos (by simp [atRest])]
      exact .rest atRest
    · rw [if_neg (by simpa using atRest)]
      split
      · next next stepped =>
        have move := invariant.move_of_step atRest stepped
        have fewer := remaining_move confined invariant move
        exact .next atRest stepped (ih (invariant.move move) (by omega))
      · next cycle stepped => exact .error atRest stepped

/-- A walk that comes to its end leaves the path empty and is done with all it came to. -/
theorem Completes.ok {targets : String → List String} {state final : CycleSearch String}
    (completes : Completes targets state (.ok final)) (invariant : Invariant targets state) :
    Invariant targets final ∧ final.path = [] ∧
      (∀ name, Met state name → name ∈ final.done) ∧
      ∀ name ∈ final.done, Met state name ∨ ∃ source, Edge targets source name := by
  generalize outcomeIs : Except.ok final = outcome at completes
  induction completes with
  | @rest state atRest =>
    cases outcomeIs
    have noPath := invariant.pending_eq_nil_iff.1 atRest
    exact ⟨invariant, noPath, fun name met => met.resolve_left (by simp [noPath]),
      fun name finished => .inl (.inr finished)⟩
  | error _ _ => cases outcomeIs
  | @next state next _ active stepped _ ih =>
    have move := invariant.move_of_step active stepped
    obtain ⟨finalInvariant, noPath, metDone, doneMet⟩ := ih (invariant.move move) outcomeIs
    refine ⟨finalInvariant, noPath, fun name met => metDone name (met_move invariant move met),
      fun name finished => ?_⟩
    rcases doneMet name finished with metNext | entered
    · exact met_of_move invariant move metNext
    · exact .inr entered

/-- A walk that fails has met a simple cycle. -/
theorem Completes.error_simpleCycle {targets : String → List String}
    {state : CycleSearch String} {cycle : List String}
    (completes : Completes targets state (.error cycle)) (invariant : Invariant targets state) :
    SimpleCycle (Edge targets) cycle := by
  generalize outcomeIs : Except.error cycle = outcome at completes
  induction completes with
  | rest _ => cases outcomeIs
  | @error state cycle' active stepped =>
    cases outcomeIs
    exact simpleCycle_of_move invariant (invariant.move_of_step active stepped)
  | @next state next _ active stepped _ ih =>
    exact ih (invariant.move (invariant.move_of_step active stepped)) outcomeIs

/-! ## Walking below all names -/

/-- Between two walks no more steps are left than there are names and edges. -/
theorem remaining_le_bound {targets : String → List String} {names : List String}
    {state : CycleSearch String} (invariant : Invariant targets state) (atRest : state.path = []) :
    remaining targets names state ≤ bound targets names := by
  have nonePending := invariant.pending_eq_nil_iff.2 atRest
  have fewer : ((names.filter fun other => ¬ Met state other).map (cost targets)).sum ≤
      (names.map (cost targets)).sum :=
    (List.filter_sublist.map (cost targets)).sum_le_sum fun _ _ => Nat.zero_le _
  simpa [remaining, nonePending, atRest, bound_eq_sum] using fewer

/-- A name that is entered with an empty path gives its own steps to what is left. -/
theorem remaining_enter {targets : String → List String} {names : List String}
    {state : CycleSearch String} {root : String} (invariant : Invariant targets state)
    (atRest : state.path = []) (present : root ∈ names) (fresh : root ∉ state.done) :
    remaining targets names (enter targets root state) ≤ remaining targets names state := by
  have noneOnPath : ¬ Met state root := by simp [Met, atRest, fresh]
  have lighter := sum_met_add_le targets (enter targets root state) present noneOnPath
    fun _ => met_enter_iff
  have nonePending := invariant.pending_eq_nil_iff.2 atRest
  have steps : remaining targets names (enter targets root state) =
      ((names.filter fun other => ¬ Met (enter targets root state) other).map
        (cost targets)).sum + cost targets root := by
    simp only [remaining, enter, nonePending, atRest, cost, List.map_cons, List.map_nil,
      List.sum_cons, List.sum_nil, List.length_cons, List.length_nil]
    omega
  have unchanged : remaining targets names state =
      ((names.filter fun other => ¬ Met state other).map (cost targets)).sum := by
    simp [remaining, nonePending, atRest]
  rw [steps, unchanged]
  exact lighter

/-- The steps below a name that is entered with an empty path are within the bound. -/
theorem remaining_enter_le {targets : String → List String} {names : List String}
    {state : CycleSearch String} {root : String} (invariant : Invariant targets state)
    (atRest : state.path = []) (present : root ∈ names) (fresh : root ∉ state.done) :
    remaining targets names (enter targets root state) ≤ bound targets names :=
  (remaining_enter invariant atRest present fresh).trans (remaining_le_bound invariant atRest)

/-- The bounded walk is the walk without a bound. -/
theorem traverses_foldlM {targets : String → List String} {names : List String}
    (confined : Confined targets names) {roots : List String} (within : roots ⊆ names)
    {state : CycleSearch String} (invariant : Invariant targets state)
    (atRest : state.path = []) :
    Traverses targets roots state
      (roots.foldlM (visit targets (bound targets names)) state) := by
  induction roots generalizing state with
  | nil => exact .nil state
  | cons root roots ih =>
    obtain ⟨present, restWithin⟩ := List.cons_subset.1 within
    rw [List.foldlM_cons, visit]
    by_cases finished : root ∈ state.done
    · rw [if_pos finished]
      exact .known finished (ih restWithin invariant atRest)
    · rw [if_neg finished]
      have entered := invariant.enter_root atRest finished
      have completes := completes_run confined entered
        (remaining_enter_le invariant atRest present finished)
      match outcome : run targets (bound targets names) (enter targets root state) with
      | .ok next =>
        rw [outcome] at completes
        obtain ⟨nextInvariant, nextAtRest, _, _⟩ := completes.ok entered
        exact .visit finished completes (ih restWithin nextInvariant nextAtRest)
      | .error cycle =>
        rw [outcome] at completes
        exact .error finished completes

theorem traverses_walk {targets : String → List String} {names : List String}
    (confined : Confined targets names) :
    Traverses targets names start (walk targets names) :=
  traverses_foldlM confined (List.Subset.refl names) (invariant_start targets) rfl

/-- A traversal that comes to its end is done with its roots, with what it was done with before,
and with nothing else but targets. -/
theorem Traverses.ok {targets : String → List String} {roots : List String}
    {state final : CycleSearch String} (traverses : Traverses targets roots state (.ok final))
    (invariant : Invariant targets state) (atRest : state.path = []) :
    Invariant targets final ∧ final.path = [] ∧ (∀ name ∈ state.done, name ∈ final.done) ∧
      (∀ name ∈ roots, name ∈ final.done) ∧
      ∀ name ∈ final.done,
        name ∈ state.done ∨ name ∈ roots ∨ ∃ source, Edge targets source name := by
  generalize outcomeIs : Except.ok final = outcome at traverses
  induction traverses with
  | nil state =>
    cases outcomeIs
    exact ⟨invariant, atRest, fun _ finished => finished, by simp, fun _ finished => .inl finished⟩
  | @known root roots state _ finished _ ih =>
    obtain ⟨finalInvariant, noPath, kept, covered, origin⟩ := ih invariant atRest outcomeIs
    refine ⟨finalInvariant, noPath, kept, fun name present => ?_, fun name isDone => ?_⟩
    · rcases List.mem_cons.1 present with rfl | later
      · exact kept _ finished
      · exact covered name later
    · exact (origin name isDone).imp id (Or.imp (List.mem_cons_of_mem _) id)
  | @visit root roots state next _ fresh completes _ ih =>
    obtain ⟨nextInvariant, nextAtRest, metDone, doneMet⟩ :=
      completes.ok (invariant.enter_root atRest fresh)
    obtain ⟨finalInvariant, noPath, kept, covered, origin⟩ := ih nextInvariant nextAtRest outcomeIs
    refine ⟨finalInvariant, noPath, fun name finished => kept name (metDone name (.inr finished)),
      fun name present => ?_, fun name isDone => ?_⟩
    · rcases List.mem_cons.1 present with rfl | later
      · exact kept _ (metDone _ (.inl List.mem_cons_self))
      · exact covered name later
    · rcases origin name isDone with nextDone | inRoots | entered
      · rcases doneMet name nextDone with (onPath | before) | entered
        · simp only [enter, atRest, List.mem_singleton] at onPath
          exact .inr (.inl (onPath ▸ List.mem_cons_self))
        · exact .inl before
        · exact .inr (.inr entered)
      · exact .inr (.inl (List.mem_cons_of_mem _ inRoots))
      · exact .inr (.inr entered)
  | error _ _ => cases outcomeIs

theorem Traverses.error_simpleCycle {targets : String → List String} {roots : List String}
    {state : CycleSearch String} {cycle : List String}
    (traverses : Traverses targets roots state (.error cycle))
    (invariant : Invariant targets state) (atRest : state.path = []) :
    SimpleCycle (Edge targets) cycle := by
  generalize outcomeIs : Except.error cycle = outcome at traverses
  induction traverses with
  | nil _ => cases outcomeIs
  | known _ _ ih => exact ih invariant atRest outcomeIs
  | visit fresh completes _ ih =>
    obtain ⟨nextInvariant, nextAtRest, _, _⟩ := completes.ok (invariant.enter_root atRest fresh)
    exact ih nextInvariant nextAtRest outcomeIs
  | error fresh completes =>
    cases outcomeIs
    exact completes.error_simpleCycle (invariant.enter_root atRest fresh)

/-! ## Results -/

/-- The cycle that a failing walk reports is one of the graph, and simple. -/
theorem walk_error_simpleCycle {targets : String → List String} {names cycle : List String}
    (confined : Confined targets names) (failed : walk targets names = .error cycle) :
    SimpleCycle (Edge targets) cycle := by
  have traverses := traverses_walk confined
  rw [failed] at traverses
  exact traverses.error_simpleCycle (invariant_start targets) rfl

/-- A walk that does not fail is done with exactly the given names. -/
theorem walk_ok_done {targets : String → List String} {names : List String}
    {final : CycleSearch String} (confined : Confined targets names)
    (passed : walk targets names = .ok final) :
    Invariant targets final ∧ final.path = [] ∧ ∀ name, name ∈ final.done ↔ name ∈ names := by
  have traverses := traverses_walk confined
  rw [passed] at traverses
  obtain ⟨invariant, noPath, _, covered, origin⟩ := traverses.ok (invariant_start targets) rfl
  refine ⟨invariant, noPath, fun name => ⟨fun finished => ?_, covered name⟩⟩
  rcases origin name finished with before | present | ⟨source, step⟩
  · exact absurd before (NameSet.not_mem_empty name)
  · exact present
  · exact (confined source name step).2

/-- A walk does not fail exactly when there is no cycle. -/
theorem walk_ok_iff {targets : String → List String} {names : List String}
    (confined : Confined targets names) :
    (∃ final, walk targets names = .ok final) ↔ Acyclic (Edge targets) := by
  constructor
  · rintro ⟨final, passed⟩
    obtain ⟨invariant, _, isDone⟩ := walk_ok_done confined passed
    refine acyclic_of_acc (fun source target step => (confined source target step).1) ?_
    exact fun name present => invariant.ends name ((isDone name).2 present)
  · intro acyclic
    match outcome : walk targets names with
    | .ok final => exact ⟨final, rfl⟩
    | .error cycle =>
      obtain ⟨name, path⟩ := (walk_error_simpleCycle confined outcome).cyclic
      exact absurd path (acyclic name)

end FeatureResolution.CycleSearch
