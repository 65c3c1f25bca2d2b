import FeatureResolution.Proofs.FirstDefect

/-!
# The cycle that is reported

The search for a cycle is a walk that keeps its path and the targets pending on it. Written down as
a recursion it is `explore`: below a path, names are searched one after the other, and from a name
that is neither on the path nor done its targets are searched first.

The walk does what the recursion does, frame by frame: where the recursion is about to search the
names `below` under a path, the walk has that path and `below` pending on top of it, and where the
recursion comes back the walk has nothing pending there any more (`completes_explore`). A name that
was entered is left again with the same names on the path as before (`completes_leave`). A walk
ends in one way only (`Completes.unique`), so the two have one outcome (`walk_eq_explore`).

Results:
1. a reported cycle is a simple cycle of implications, and every flag on it is reached from every
   other one by implications;
2. the check for cycles fails exactly as the recursive search does, with the same cycle.
-/

namespace FeatureResolution

open Relation

/-! ## The nodes of a cycle -/

/-- Along a chain every node before the last one reaches it. -/
theorem reaches_last_of_chain {α : Type} {edge : α → α → Prop} {before : List α} {last : α}
    (chain : (before ++ [last]).IsChain edge) : ∀ node ∈ before, TransGen edge node last := by
  induction before with
  | nil => exact List.forall_mem_nil _
  | cons first rest ih =>
    intro node present
    cases List.mem_cons.1 present with
    | inl same => exact same ▸ reaches_of_chain chain last (by simp)
    | inr later => exact ih chain.tail node later

/-- The nodes of a cycle reach each other. -/
theorem SimpleCycle.reaches {α : Type} {edge : α → α → Prop} {cycle : List α}
    (simple : SimpleCycle edge cycle) {first second : α} (firstOn : first ∈ cycle)
    (secondOn : second ∈ cycle) : TransGen edge first second := by
  obtain ⟨⟨node, inner, rfl⟩, _, follows⟩ := simple
  have fromNode : ∀ other ∈ node :: inner ++ [node], TransGen edge node other := by
    intro other present
    refine reaches_of_chain follows other ?_
    cases List.mem_cons.1 present with
    | inl same => simp [same]
    | inr later => exact later
  have toNode : TransGen edge first node := by
    cases List.mem_append.1 firstOn with
    | inl before => exact reaches_last_of_chain follows first before
    | inr last => exact List.mem_singleton.1 last ▸ fromNode node (by simp)
  exact toNode.trans (fromNode second secondOn)

namespace CycleSearch

variable {targets : String → List String} {names : List String}

/-! ## The recursive search -/

theorem Confined.targets_subset (confined : Confined targets names) (name : String) :
    targets name ⊆ names :=
  fun target drawn => (confined name target drawn).2

/-- How many names are not on a path. -/
def namesOff (names path : List String) : Nat :=
  (names.filter fun name => name ∉ path).length

theorem namesOff_lt {path : List String} {name : String} (present : name ∈ names)
    (fresh : name ∉ path) : namesOff names (path ++ [name]) < namesOff names path := by
  have kept : (names.filter fun other => other ∉ path ++ [name]) =
      (names.filter fun other => other ∉ path).filter fun other => other ≠ name := by
    rw [List.filter_filter]
    refine List.filter_congr fun other _ => ?_
    simp [and_comm]
  rw [namesOff, kept]
  exact List.length_filter_lt_length_iff_exists.2
    ⟨name, List.mem_filter.2 ⟨present, by simpa using fresh⟩, by simp⟩

/-- The search from the names `below` a path, one after the other, which gives the names that it is
done with then. A name on the path closes a cycle: the path from that name on, and the name again. A
name that is done is passed over. From any other name its targets are searched, with the name on the
path, and then the name is done. -/
def explore (confined : Confined targets names) (path : List String) (done : NameSet String) :
    (below : List String) → below ⊆ names → Except (List String) (NameSet String)
  | [], _ => .ok done
  | name :: rest, within =>
    if name ∈ path then .error (path.dropWhile (· ≠ name) ++ [name])
    else if name ∈ done then
      explore confined path done rest (List.subset_of_cons_subset within)
    else do
      let finished ← explore confined (path ++ [name]) done (targets name)
        (confined.targets_subset name)
      explore confined path (finished.insert name) rest (List.subset_of_cons_subset within)
termination_by below => (namesOff names path, below.length)
decreasing_by
  · exact .right _ (by simp)
  · exact .left _ _ (namesOff_lt (within List.mem_cons_self) ‹_›)
  · exact .right _ (by simp)

/-! ## The walk has one outcome -/

theorem Completes.unique {state : CycleSearch String}
    {first second : Except (List String) (CycleSearch String)}
    (one : Completes targets state first) (two : Completes targets state second) :
    first = second := by
  induction one with
  | rest atRest =>
    cases two with
    | rest _ => rfl
    | error active _ => exact absurd atRest active
    | next active _ _ => exact absurd atRest active
  | error active stepped =>
    cases two with
    | rest atRest => exact absurd atRest active
    | error _ again => exact congrArg Except.error (Except.error.inj (stepped.symm.trans again))
    | next _ again _ => cases stepped.symm.trans again
  | next active stepped _ ih =>
    cases two with
    | rest atRest => exact absurd atRest active
    | error _ again => cases stepped.symm.trans again
    | next _ again later =>
      cases stepped.symm.trans again
      exact ih later

theorem Traverses.unique {roots : List String} {state : CycleSearch String}
    {first second : Except (List String) (CycleSearch String)}
    (one : Traverses targets roots state first) (two : Traverses targets roots state second) :
    first = second := by
  induction one with
  | nil state =>
    cases two with
    | nil _ => rfl
  | known finished _ ih =>
    cases two with
    | known _ later => exact ih later
    | visit fresh _ _ => exact absurd finished fresh
    | error fresh _ => exact absurd finished fresh
  | visit fresh completes _ ih =>
    cases two with
    | known finished _ => exact absurd finished fresh
    | visit _ again later =>
      cases completes.unique again
      exact ih later
    | error _ again => cases completes.unique again
  | error fresh completes =>
    cases two with
    | known finished _ => exact absurd finished fresh
    | visit _ again _ => cases completes.unique again
    | error _ again => exact completes.unique again

/-! ## Frame by frame -/

theorem step_target (targets : String → List String) (path : List String) (target : String)
    (rest : List String) (pending : List (List String)) (visiting done : NameSet String) :
    step targets ⟨path, (target :: rest) :: pending, visiting, done⟩ =
      if target ∈ visiting then .error (closedBy target path)
      else if target ∈ done then .ok ⟨path, rest :: pending, visiting, done⟩
      else .ok ⟨target :: path, targets target :: rest :: pending, visiting.insert target,
        done⟩ := by
  cases path <;> rfl

/-- Where the walk goes on from when the recursion comes back with a result: from `resume`, or not
at all. -/
inductive Resumes (targets : String → List String) (resume : NameSet String → CycleSearch String) :
    Except (List String) (NameSet String) → Except (List String) (CycleSearch String) → Prop
  | ok {finished : NameSet String} {outcome : Except (List String) (CycleSearch String)} :
      Completes targets (resume finished) outcome → Resumes targets resume (.ok finished) outcome
  | error (cycle : List String) : Resumes targets resume (.error cycle) (.error cycle)

/-- A name whose targets have all been followed is left as if it had never been entered, but for
being done. -/
theorem completes_leave {path : List String} {pending : List (List String)} {name : String}
    {visiting finished : NameSet String} {outcome : Except (List String) (CycleSearch String)}
    (fresh : name ∉ visiting)
    (later : Completes targets ⟨path, pending, visiting, finished.insert name⟩ outcome) :
    Completes targets ⟨name :: path, [] :: pending, visiting.insert name, finished⟩ outcome := by
  have restored : (visiting.insert name).erase name = visiting := by
    ext other
    rw [NameSet.mem_erase, NameSet.mem_insert_text]
    constructor
    · rintro ⟨rfl | onPath, different⟩
      · exact absurd rfl different
      · exact onPath
    · intro onPath
      exact ⟨.inr onPath, fun same => fresh (same ▸ onPath)⟩
  refine .next (List.cons_ne_nil _ _) rfl ?_
  rw [restored]
  exact later

/-- What the walk does while the recursion searches some names below a path. -/
theorem completes_explore (confined : Confined targets names) (path : List String)
    (done : NameSet String) (below : List String) (within : below ⊆ names)
    {pending : List (List String)} {visiting : NameSet String}
    {outcome : Except (List String) (CycleSearch String)}
    (onPath : ∀ name, name ∈ visiting ↔ name ∈ path)
    (resumes : Resumes targets (fun finished => ⟨path.reverse, [] :: pending, visiting, finished⟩)
      (explore confined path done below within) outcome) :
    Completes targets ⟨path.reverse, below :: pending, visiting, done⟩ outcome := by
  -- The cases are those of the recursion: no name is left, the first one is on the path, it is
  -- done, or it is new. Only for a new one does the walk take steps below the names of this frame.
  induction path, done, below, within using explore.induct confined
    generalizing pending visiting outcome with
  | case1 path done within =>
    rw [explore] at resumes
    cases resumes with
    | ok later => exact later
  | case2 path done name rest within closes =>
    rw [explore, if_pos closes] at resumes
    cases resumes with
    | error =>
      refine .error (List.cons_ne_nil _ _) ?_
      rw [step_target, if_pos ((onPath name).2 closes), closedBy, List.reverse_reverse]
      simp
  | case3 path done name rest within offPath finished _ ih =>
    rw [explore, if_neg offPath, if_pos finished] at resumes
    have notVisiting : name ∉ visiting := fun entered => offPath ((onPath name).1 entered)
    refine .next (List.cons_ne_nil _ _) ?_ (ih onPath resumes)
    rw [step_target, if_neg notVisiting, if_pos finished]
  | case4 path done name rest within offPath fresh _ ihBelow ihRest =>
    rw [explore, if_neg offPath, if_neg fresh] at resumes
    have notVisiting : name ∉ visiting := fun entered => offPath ((onPath name).1 entered)
    have onLonger : ∀ other, other ∈ visiting.insert name ↔ other ∈ path ++ [name] := by
      intro other
      rw [NameSet.mem_insert_text, onPath, List.mem_append, List.mem_singleton, or_comm]
    have longer : (path ++ [name]).reverse = name :: path.reverse := by simp
    have entering : step targets ⟨path.reverse, (name :: rest) :: pending, visiting, done⟩ =
        .ok ⟨(path ++ [name]).reverse, targets name :: rest :: pending, visiting.insert name,
          done⟩ := by
      rw [step_target, if_neg notVisiting, if_neg fresh, longer]
    refine .next (List.cons_ne_nil _ _) entering (ihBelow onLonger ?_)
    cases searched : explore confined (path ++ [name]) done (targets name)
      (confined.targets_subset name) with
    | error cycle =>
      rw [searched, error_bind] at resumes
      cases resumes with
      | error => exact .error cycle
    | ok finished =>
      rw [searched, ok_bind] at resumes
      refine .ok ?_
      rw [longer]
      exact completes_leave notVisiting (ihRest finished onPath resumes)

/-- What the walk does while the recursion searches from its roots. -/
theorem traverses_explore (confined : Confined targets names) (done : NameSet String)
    (roots : List String) (within : roots ⊆ names) :
    Traverses targets roots ⟨[], [], ∅, done⟩
      ((explore confined [] done roots within).map fun finished => ⟨[], [], ∅, finished⟩) := by
  induction roots generalizing done with
  | nil =>
    rw [explore]
    exact .nil _
  | cons root roots ih =>
    rw [explore, if_neg List.not_mem_nil, List.nil_append]
    by_cases finished : root ∈ done
    · rw [if_pos finished]
      exact .known finished (ih done _)
    · rw [if_neg finished]
      have onPath : ∀ name, name ∈ (∅ : NameSet String).insert root ↔ name ∈ [root] := by
        intro name
        simp [eq_comm]
      have entered {outcome : Except (List String) (CycleSearch String)}
          (resumes : Resumes targets
            (fun finished => ⟨[root], [[]], (∅ : NameSet String).insert root, finished⟩)
            (explore confined [root] done (targets root) (confined.targets_subset root)) outcome) :
          Completes targets (enter targets root ⟨[], [], ∅, done⟩) outcome :=
        completes_explore confined [root] done (targets root) (confined.targets_subset root) onPath
          resumes
      cases searched : explore confined [root] done (targets root)
        (confined.targets_subset root) with
      | error cycle =>
        rw [searched] at entered
        exact .error finished (entered (.error cycle))
      | ok more =>
        rw [searched] at entered
        have left : Completes targets ⟨[root], [[]], (∅ : NameSet String).insert root, more⟩
            (.ok ⟨[], [], ∅, more.insert root⟩) :=
          completes_leave (NameSet.not_mem_empty root) (.rest rfl)
        exact .visit finished (entered (.ok left)) (ih (more.insert root) _)

/-- The walk ends as the recursion does: with the same cycle, or done with the same names. -/
theorem walk_eq_explore (confined : Confined targets names) :
    walk targets names = (explore confined [] ∅ names (List.Subset.refl names)).map
      fun finished => ⟨[], [], ∅, finished⟩ :=
  (traverses_walk confined).unique (traverses_explore confined ∅ names (List.Subset.refl names))

end CycleSearch

namespace Registry

variable {flags : List (Flag String)} {defaults : List String}
  {conflicts : List (String × String)} {artifact : Option (Artifact String)}

/-! ## Results -/

/-- What a flag implies, in ascending order. -/
def impliedInOrder (flags : List (Flag String)) (name : String) : List String :=
  match Flag.find? name flags with
  | some flag => flag.implies.toList
  | none => []

theorem confined_impliedInOrder
    (declared : ∀ flag ∈ flags, ∀ target ∈ flag.implies, Declared flags target) :
    CycleSearch.Confined (impliedInOrder flags) (flags.map (·.name)) := by
  intro name target implied
  unfold impliedInOrder at implied
  split at implied
  · next flag found =>
    obtain ⟨present, rfl⟩ := Flag.mem_of_find? found
    exact ⟨List.mem_map_of_mem present, declared flag present target (NameSet.mem_toList.1 implied)⟩
  · cases implied

/-- The check for cycles is the recursive search from the flags in declaration order, which follows
what a flag implies in ascending order. -/
theorem checkAcyclic_eq_explore (flags : List (Flag String))
    (declared : ∀ flag ∈ flags, ∀ target ∈ flag.implies, Declared flags target) :
    checkAcyclic flags =
      ((CycleSearch.explore (confined_impliedInOrder declared) [] ∅ (flags.map (·.name))
        (List.Subset.refl _)).map fun _ => ()).mapError .implicationCycle := by
  have followed : targets flags = impliedInOrder flags := funext (targets_text flags)
  rw [checkAcyclic, followed, CycleSearch.walk_eq_explore (confined_impliedInOrder declared)]
  cases CycleSearch.explore (confined_impliedInOrder declared) [] ∅ (flags.map (·.name))
    (List.Subset.refl _) with
  | ok _ => rfl
  | error cycle => exact congrArg Except.error (by simp [cycleError])

/-- Two flags that imply each other, below a flag that leads to them, with a flag below them all. -/
def loopWithTails : List (Flag String) :=
  [{ name := "app", implies := .ofList ["left", "base"] },
    { name := "left", implies := .ofList ["right", "base"] },
    { name := "right", implies := .ofList ["left", "base"] }, { name := "base" }]

theorem checkAcyclic_eq_explore_loopWithTails :
    ∃ declared : ∀ flag ∈ loopWithTails, ∀ target ∈ flag.implies, Declared loopWithTails target,
      CycleSearch.explore (confined_impliedInOrder declared) [] ∅ (loopWithTails.map (·.name))
        (List.Subset.refl _) = .error ["left", "right", "left"] := by
  have declared : ∀ flag ∈ loopWithTails, ∀ target ∈ flag.implies,
      Declared loopWithTails target := by
    simp [loopWithTails, Declared]
  refine ⟨declared, ?_⟩
  have reported : checkAcyclic loopWithTails =
      .error (.implicationCycle ["left", "right", "left"]) := rfl
  rw [checkAcyclic_eq_explore loopWithTails declared] at reported
  cases searched : CycleSearch.explore (confined_impliedInOrder declared) [] ∅
    (loopWithTails.map (·.name)) (List.Subset.refl _) with
  | ok _ =>
    rw [searched] at reported
    cases reported
  | error cycle =>
    rw [searched] at reported
    cases reported
    rfl

/-- A reported cycle is a simple cycle of implications between declared flags, and its flags reach
each other, so none is on it that only leads to it. -/
theorem build_reported_cycle {cycle : List String}
    (refused : build flags defaults conflicts artifact = .error (.implicationCycle cycle)) :
    SimpleCycle (Implies flags) cycle ∧ (∀ name ∈ cycle, Declared flags name) ∧
      ∀ first ∈ cycle, ∀ second ∈ cycle, TransGen (Implies flags) first second := by
  obtain ⟨coherent, failed⟩ := build_eq_cycle_iff.1 refused
  obtain ⟨_, ⟨⟩, simple⟩ := checkAcyclic_eq_error coherent failed
  have reaches : ∀ first ∈ cycle, ∀ second ∈ cycle, TransGen (Implies flags) first second := by
    intro first firstOn second secondOn
    exact simple.reaches firstOn secondOn
  refine ⟨simple, fun name present => ?_, reaches⟩
  obtain ⟨_, step, _⟩ := TransGen.head'_iff.1 (reaches name present name present)
  exact step.source_declared

theorem build_reported_cycle_loopWithTails :
    build loopWithTails ["app"] [("app", "base")] none =
        .error (.implicationCycle ["left", "right", "left"]) ∧
      SimpleCycle (Implies loopWithTails) ["left", "right", "left"] ∧
      TransGen (Implies loopWithTails) "right" "left" := by
  have refused : build loopWithTails ["app"] [("app", "base")] none =
      .error (.implicationCycle ["left", "right", "left"]) := rfl
  obtain ⟨simple, _, reaches⟩ := build_reported_cycle refused
  exact ⟨refused, simple, reaches "right" (by simp) "left" (by simp)⟩

end Registry

end FeatureResolution
