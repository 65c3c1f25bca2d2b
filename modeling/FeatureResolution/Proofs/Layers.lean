import FeatureResolution.Proofs.Closure
import Mathlib.Data.Finset.Order
import Mathlib.Order.Lattice.Nat

/-!
# The closure of a request grows layer by layer

A flag is as far from the flags that a request starts from as the shortest chain of implications
that leads to it from one of them has edges (`AtDistance`). A flag is at distance `n + 1` exactly
when it is at no smaller one and some flag at distance `n` implies it (`atDistance_succ_iff`), and
this is what a round computes: `Layered` says that after `n` rounds the enabled flags are those
within distance `n` and the newest layer those at distance `n`, and every round keeps it
(`Layered.round`).

The loop goes on while the newest layer holds a flag. Such a flag ends a chain of `n` implications,
and where implications form no cycle there is a longest chain (`Acyclic.exists_longest_chain`), so
the length of that chain bounds the rounds.

Result: the rounds are the layers of the distance, no flag is expanded twice, and there is at most
one round more than the longest chain has edges.
-/

namespace FeatureResolution

variable {α : Type} {edge : α → α → Prop} {start : α → Prop}

/-! ## Distances -/

/-- A row of edges from the first node to the last one, counted. -/
inductive Chain (edge : α → α → Prop) (first : α) : Nat → α → Prop
  | refl : Chain edge first 0 first
  | tail {count : Nat} {middle last : α} : Chain edge first count middle → edge middle last →
      Chain edge first (count + 1) last

/-- Some chain of `count` edges leads from a start to the node. -/
def ReachedIn (edge : α → α → Prop) (start : α → Prop) (count : Nat) (node : α) : Prop :=
  ∃ source, start source ∧ Chain edge source count node

/-- The shortest chain from a start to the node has `distance` edges. -/
def AtDistance (edge : α → α → Prop) (start : α → Prop) (distance : Nat) (node : α) : Prop :=
  IsLeast {count | ReachedIn edge start count node} distance

/-- The node is at a distance of at most `bound`. -/
def Within (edge : α → α → Prop) (start : α → Prop) (bound : Nat) (node : α) : Prop :=
  ∃ distance ≤ bound, AtDistance edge start distance node

theorem reachedIn_succ_iff {count : Nat} {last : α} :
    ReachedIn edge start (count + 1) last ↔
      ∃ middle, ReachedIn edge start count middle ∧ edge middle last := by
  constructor
  · rintro ⟨source, isStart, chain⟩
    cases chain with
    | tail before step => exact ⟨_, ⟨source, isStart, before⟩, step⟩
  · rintro ⟨middle, ⟨source, isStart, before⟩, step⟩
    exact ⟨source, isStart, before.tail step⟩

/-- A node that a chain leads to has a distance, at most the length of that chain. -/
theorem ReachedIn.within {count : Nat} {node : α} (reached : ReachedIn edge start count node) :
    Within edge start count node := by
  classical
  have some : ∃ count, ReachedIn edge start count node := ⟨count, reached⟩
  refine ⟨Nat.find some, Nat.find_min' some reached, Nat.find_spec some, ?_⟩
  intro other otherReached
  exact Nat.find_min' some otherReached

/-- A node has one distance. -/
theorem AtDistance.unique {first second : Nat} {node : α}
    (one : AtDistance edge start first node) (two : AtDistance edge start second node) :
    first = second :=
  IsLeast.unique one two

theorem atDistance_zero_iff {node : α} : AtDistance edge start 0 node ↔ start node := by
  constructor
  · rintro ⟨⟨source, isStart, chain⟩, _⟩
    cases chain with
    | refl => exact isStart
  · intro isStart
    exact ⟨⟨node, isStart, .refl⟩, fun count _ => Nat.zero_le count⟩

theorem within_zero_iff {node : α} : Within edge start 0 node ↔ start node := by
  simp only [Within, Nat.le_zero_eq, exists_eq_left, atDistance_zero_iff]

theorem within_succ_iff {bound : Nat} {node : α} :
    Within edge start (bound + 1) node ↔
      Within edge start bound node ∨ AtDistance edge start (bound + 1) node := by
  constructor
  · rintro ⟨distance, small, atDistance⟩
    rcases Nat.le_succ_iff.1 small with smaller | rfl
    · exact .inl ⟨distance, smaller, atDistance⟩
    · exact .inr atDistance
  · rintro (⟨distance, small, atDistance⟩ | atDistance)
    · exact ⟨distance, Nat.le_succ_of_le small, atDistance⟩
    · exact ⟨bound + 1, Nat.le_refl _, atDistance⟩

/-- A layer is what the layer before it leads to and no layer up to that one holds. -/
theorem atDistance_succ_iff {distance : Nat} {node : α} :
    AtDistance edge start (distance + 1) node ↔
      ¬ Within edge start distance node ∧
        ∃ source, AtDistance edge start distance source ∧ edge source node := by
  constructor
  · intro atDistance
    refine ⟨?_, ?_⟩
    · rintro ⟨smaller, small, atSmaller⟩
      have same := atDistance.unique atSmaller
      omega
    · obtain ⟨source, reached, step⟩ := reachedIn_succ_iff.1 atDistance.1
      refine ⟨source, ⟨reached, fun count shorter => ?_⟩, step⟩
      -- A shorter chain to the source would make a shorter chain to the node.
      have bounded := atDistance.2 (reachedIn_succ_iff.2 ⟨source, shorter, step⟩)
      omega
  · rintro ⟨far, source, atSource, step⟩
    refine ⟨reachedIn_succ_iff.2 ⟨source, atSource.1, step⟩, fun count reached => ?_⟩
    by_contra short
    obtain ⟨smaller, small, atSmaller⟩ := reached.within
    exact far ⟨smaller, by omega, atSmaller⟩

/-! ## The longest chain -/

theorem Chain.rank_add_le {rank : α → Nat}
    (grows : ∀ first second, edge first second → rank first < rank second) {first last : α}
    {count : Nat} (chain : Chain edge first count last) : rank first + count ≤ rank last := by
  induction chain with
  | refl => exact Nat.le_refl _
  | tail _ step ih =>
    have higher := grows _ _ step
    omega

/-- In a graph without cycles no chain is longer than some longest one. -/
theorem Acyclic.exists_longest_chain [Nonempty α] {nodes : List α} (acyclic : Acyclic edge)
    (confined : ∀ first second, edge first second → first ∈ nodes ∧ second ∈ nodes) :
    ∃ longest, IsGreatest {count | ∃ first last, Chain edge first count last} longest := by
  -- The graph is ranked against its edges, so a chain has no more edges than its end has rank.
  obtain ⟨rank, grows⟩ :=
    acyclic.flip.ranked fun first second step => (confined second first step).1
  obtain ⟨bound, highest⟩ := (nodes.map rank).toFinset.exists_le
  have bounded : BddAbove {count | ∃ first last, Chain edge first count last} := by
    refine ⟨bound, ?_⟩
    rintro count ⟨first, last, chain⟩
    have ranked := chain.rank_add_le fun first second step => grows second first step
    cases chain with
    | refl => exact Nat.zero_le bound
    | tail _ step =>
      have present := List.mem_map_of_mem (f := rank) (confined _ _ step).2
      have low := highest _ (List.mem_toFinset.2 present)
      omega
  obtain ⟨node⟩ := ‹Nonempty α›
  have inhabited : {count | ∃ first last, Chain edge first count last}.Nonempty :=
    ⟨0, node, node, .refl⟩
  exact ⟨_, Nat.sSup_mem inhabited bounded, fun count chain => le_csSup bounded chain⟩

namespace Registry

variable {registry : Registry String} {initial : NameSet String}

/-! ## Counted rounds -/

/-- The loop of rounds, counted and without a bound: while the newest layer holds a flag, a round
looks up what the flags of that layer imply. `expanded` lists the flags looked up so far. -/
inductive Proceeds (registry : Registry String) (first : ClosureState String) :
    Nat → List String → ClosureState String → Prop
  | refl : Proceeds registry first 0 [] first
  | round {count : Nat} {expanded : List String} {state next : ClosureState String} :
      Proceeds registry first count expanded state → state.frontier ≠ ∅ →
      registry.round state = .ok next →
      Proceeds registry first (count + 1) (expanded ++ state.frontier.toList) next

theorem rounds_succ (registry : Registry String) (count : Nat) (state : ClosureState String) :
    registry.rounds (count + 1) state = registry.rounds count state >>= registry.rounds 1 := by
  induction count generalizing state with
  | zero => rfl
  | succ count ih =>
    unfold rounds
    by_cases settled : state.frontier.isEmpty = true
    · rw [if_pos settled, if_pos settled, ok_bind, rounds, if_pos settled]
    · rw [if_neg settled, if_neg settled, bind_assoc]
      exact congrArg _ (funext ih)

/-- The counted loop is the bounded one with as many rounds. -/
theorem Proceeds.rounds_eq {first state : ClosureState String} {count : Nat}
    {expanded : List String} (proceeds : registry.Proceeds first count expanded state) :
    registry.rounds count first = .ok state := by
  induction proceeds with
  | refl => rfl
  | round _ active stepped ih =>
    have notSettled := fun isEmpty => active (NameSet.isEmpty_iff.1 isEmpty)
    rw [rounds_succ, ih, ok_bind, rounds, if_neg notSettled, stepped]
    rfl

/-- What is enabled and what is new after `count` rounds from the flags `initial`. -/
structure Layered (registry : Registry String) (initial : NameSet String) (count : Nat)
    (state : ClosureState String) : Prop where
  working : ∀ name, name ∈ state.working ↔
    Within (Implies registry.flags) (· ∈ initial) count name
  frontier : ∀ name, name ∈ state.frontier ↔
    AtDistance (Implies registry.flags) (· ∈ initial) count name

theorem layered_initial (registry : Registry String) (initial : NameSet String) :
    registry.Layered initial 0 ⟨initial, initial⟩ where
  working _ := within_zero_iff.symm
  frontier _ := atDistance_zero_iff.symm

/-- A round turns the layer at one distance into the layer at the next. -/
theorem Layered.round {count : Nat} {state next : ClosureState String}
    (layered : registry.Layered initial count state) (grows : registry.Grows state next) :
    registry.Layered initial (count + 1) next := by
  have newest : ∀ name, name ∈ next.frontier ↔
      AtDistance (Implies registry.flags) (· ∈ initial) (count + 1) name := by
    intro name
    rw [grows.frontier, atDistance_succ_iff, layered.working]
    simp only [layered.frontier]
  refine ⟨?_, newest⟩
  intro name
  rw [grows.working, layered.working, newest, within_succ_iff]

section

variable (wellFormed : registry.WellFormed)
  (initialDeclared : ∀ name ∈ initial, name ∈ registry.names)
  {count : Nat} {expanded : List String} {state : ClosureState String}

include wellFormed initialDeclared

/-- What is new is declared. -/
theorem Layered.declared (layered : registry.Layered initial count state) :
    ∀ name ∈ state.frontier, name ∈ registry.names := by
  intro name present
  obtain ⟨source, isStart, chain⟩ := ((layered.frontier name).1 present).1
  cases chain with
  | refl => exact initialDeclared _ isStart
  | tail _ step => exact wellFormed.coherent.targetsDeclared _ _ step

theorem Proceeds.layered
    (proceeds : registry.Proceeds ⟨initial, initial⟩ count expanded state) :
    registry.Layered initial count state := by
  induction proceeds with
  | refl => exact layered_initial registry initial
  | round _ _ stepped ih =>
    obtain ⟨next, found, grows⟩ := round_eq_ok wellFormed (ih.declared wellFormed initialDeclared)
    cases stepped.symm.trans found
    exact ih.round grows

/-- The flags looked up so far are those nearer than the newest layer. -/
theorem Proceeds.mem_expanded_iff
    (proceeds : registry.Proceeds ⟨initial, initial⟩ count expanded state) (name : String) :
    name ∈ expanded ↔
      ∃ distance < count, AtDistance (Implies registry.flags) (· ∈ initial) distance name := by
  induction proceeds with
  | refl => simp
  | @round count _ _ _ before _ _ ih =>
    have layered := before.layered wellFormed initialDeclared
    rw [List.mem_append, ih, NameSet.mem_toList, layered.frontier]
    constructor
    · rintro (⟨distance, nearer, atDistance⟩ | atDistance)
      · exact ⟨distance, by omega, atDistance⟩
      · exact ⟨count, by omega, atDistance⟩
    · rintro ⟨distance, nearer, atDistance⟩
      rcases Nat.lt_succ_iff_lt_or_eq.1 nearer with before | rfl
      · exact .inl ⟨distance, before, atDistance⟩
      · exact .inr atDistance

/-- No flag is looked up in two rounds, or twice in one. -/
theorem Proceeds.nodup_expanded
    (proceeds : registry.Proceeds ⟨initial, initial⟩ count expanded state) : expanded.Nodup := by
  induction proceeds with
  | refl => exact .nil
  | @round count expanded state _ before _ _ ih =>
    have layered := before.layered wellFormed initialDeclared
    refine ih.append state.frontier.nodup_toList ?_
    intro name already present
    obtain ⟨distance, nearer, atDistance⟩ :=
      (before.mem_expanded_iff wellFormed initialDeclared name).1 already
    have newest := (layered.frontier name).1 (NameSet.mem_toList.1 present)
    have same := atDistance.unique newest
    omega

/-- A round starts only where a chain with an edge for each round before it ends. -/
theorem Proceeds.count_le {longest : Nat}
    (isLongest : IsGreatest {count | ∃ first last, Chain (Implies registry.flags) first count last}
      longest)
    (proceeds : registry.Proceeds ⟨initial, initial⟩ count expanded state) :
    count ≤ longest + 1 := by
  cases proceeds with
  | refl => exact Nat.zero_le _
  | round before active _ =>
    obtain ⟨name, present⟩ := NameSet.exists_mem_of_ne_empty active
    have layered := before.layered wellFormed initialDeclared
    obtain ⟨source, _, chain⟩ := ((layered.frontier name).1 present).1
    exact Nat.succ_le_succ (isLongest.2 ⟨source, name, chain⟩)

end

/-- The rounds that come to an end can be counted. -/
theorem Saturates.proceeds {first state final : ClosureState String} {count : Nat}
    {expanded : List String} (saturates : registry.Saturates state final)
    (before : registry.Proceeds first count expanded state) :
    ∃ count expanded, registry.Proceeds first count expanded final := by
  induction saturates generalizing count expanded with
  | rest _ => exact ⟨count, expanded, before⟩
  | next active stepped _ ih => exact ih (before.round active stepped)

/-! ## Results -/

/-- After each number of rounds from declared flags, exactly the flags within that distance are
enabled and exactly those at that distance are new, so layers of different rounds share no flag and
no flag is looked up twice. The rounds come to an end, with what a request that starts from these
flags is resolved to, and there is at most one round more than the longest chain of implications
has edges. -/
theorem closure_layers (registry : Registry String) (constructed : registry.Constructed)
    (initial : NameSet String) (declared : ∀ name ∈ initial, name ∈ registry.names) :
    (∀ count expanded state, registry.Proceeds ⟨initial, initial⟩ count expanded state →
      registry.rounds count ⟨initial, initial⟩ = .ok state ∧
        registry.Layered initial count state ∧ expanded.Nodup) ∧
    (∀ first firstExpanded one second secondExpanded other,
      registry.Proceeds ⟨initial, initial⟩ first firstExpanded one →
      registry.Proceeds ⟨initial, initial⟩ second secondExpanded other → first ≠ second →
      ∀ name ∈ one.frontier, name ∉ other.frontier) ∧
    ∃ longest,
      IsGreatest {count | ∃ first last, Chain (Implies registry.flags) first count last} longest ∧
      (∀ count expanded state, registry.Proceeds ⟨initial, initial⟩ count expanded state →
        count ≤ longest + 1) ∧
      ∃ count expanded capabilities,
        registry.Proceeds ⟨initial, initial⟩ count expanded ⟨capabilities, ∅⟩ ∧
        registry.closure initial = .ok capabilities ∧
        ∀ requested defaultFeatures, (∀ name ∈ requested, ¬ registry.Unknown name) →
          registry.initial requested defaultFeatures = initial →
          registry.resolve requested defaultFeatures = .ok capabilities := by
  have wellFormed := constructed.wellFormed
  refine ⟨?_, ?_, ?_⟩
  · intro count expanded state proceeds
    exact ⟨proceeds.rounds_eq, proceeds.layered wellFormed declared,
      proceeds.nodup_expanded wellFormed declared⟩
  · intro first _ one second _ other oneProceeds otherProceeds different name inOne inOther
    have atFirst := ((oneProceeds.layered wellFormed declared).frontier name).1 inOne
    have atSecond := ((otherProceeds.layered wellFormed declared).frontier name).1 inOther
    exact different (atFirst.unique atSecond)
  · have confined : ∀ first second, Implies registry.flags first second →
        first ∈ registry.names ∧ second ∈ registry.names := by
      intro first second step
      exact ⟨step.source_declared, wellFormed.coherent.targetsDeclared first second step⟩
    obtain ⟨longest, isLongest⟩ := wellFormed.acyclic.exists_longest_chain confined
    obtain ⟨capabilities, closed, _, saturates⟩ := closure_eq_ok wellFormed declared
    obtain ⟨count, expanded, proceeds⟩ := saturates.proceeds .refl
    refine ⟨longest, isLongest, ?_, count, expanded, capabilities, proceeds, closed, ?_⟩
    · intro _ _ _ counted
      exact counted.count_le wellFormed declared isLongest
    · intro requested defaultFeatures known fromInitial
      rw [resolve_eq_closure defaultFeatures known, fromInitial, closed]

/-- A flag is new after one round although a longer chain leads to it too. -/
theorem closure_layers_smallRegistry :
    smallRegistry.Constructed ∧
      (∀ name ∈ NameSet.ofList ["derive", "rc"], name ∈ smallRegistry.names) ∧
      smallRegistry.Layered (.ofList ["derive", "rc"]) 1
        ⟨.ofList ["derive", "macros", "rc", "std"], .ofList ["macros", "std"]⟩ ∧
      (∃ longest, IsGreatest {count | ∃ first last,
          Chain (Implies smallRegistry.flags) first count last} longest ∧ 2 ≤ longest + 1) ∧
      ∃ capabilities,
        smallRegistry.resolve (.ofList ["derive", "rc"]) false = .ok capabilities := by
  have declared : ∀ name ∈ NameSet.ofList ["derive", "rc"], name ∈ smallRegistry.names := by
    intro name present
    rw [NameSet.mem_ofList] at present
    revert name
    decide
  have known : ∀ name ∈ NameSet.ofList ["derive", "rc"], ¬ smallRegistry.Unknown name :=
    fun name present unknown => unknown.2 (declared name present)
  have first : smallRegistry.Proceeds ⟨.ofList ["derive", "rc"], .ofList ["derive", "rc"]⟩ 1
      ["derive", "rc"] ⟨.ofList ["derive", "macros", "rc", "std"], .ofList ["macros", "std"]⟩ :=
    .round .refl (by decide) (by decide)
  have second : smallRegistry.Proceeds ⟨.ofList ["derive", "rc"], .ofList ["derive", "rc"]⟩ 2
      ["derive", "rc", "macros", "std"] ⟨.ofList ["derive", "macros", "rc", "std"], ∅⟩ :=
    first.round (by decide) (by decide)
  obtain ⟨rounds, _, longest, isLongest, bounded, _, _, capabilities, _, _, resolved⟩ :=
    closure_layers smallRegistry constructed_smallRegistry (.ofList ["derive", "rc"]) declared
  exact ⟨constructed_smallRegistry, declared, (rounds _ _ _ first).2.1,
    ⟨longest, isLongest, bounded _ _ _ second⟩, capabilities, resolved _ false known (by decide)⟩

end Registry

end FeatureResolution
