import Mathlib.Data.Finset.Card
import Mathlib.Data.List.Chain
import Mathlib.Logic.Relation

/-!
# Graphs without cycles

A directed graph is given by its edges, `edge first second` for an edge from `first` to `second`.
A graph whose edges all lead into a finite list has no cycle exactly when its nodes can be ranked so
that the rank falls along every edge (`acyclic_iff_ranked`). A cycle that is written out is a row of
nodes that ends where it began (`SimpleCycle`).

Two ways of arguing about such graphs are provided: a node below which every walk ends lies on no
cycle (`acyclic_of_acc`), and in a graph without cycles every node is reached from one that has no
edge into it (`exists_source`).
-/

namespace FeatureResolution

open Relation

variable {α : Type}

/-- No node is reached from itself by one or more edges. -/
def Acyclic (edge : α → α → Prop) : Prop :=
  ∀ node, ¬ TransGen edge node node

/-- The nodes can be ranked so that every edge leads to a lower rank. -/
def Ranked (edge : α → α → Prop) : Prop :=
  ∃ rank : α → Nat, ∀ first second, edge first second → rank second < rank first

/-- A cycle without repeated nodes, written as its nodes in order and the first one again. -/
structure SimpleCycle (edge : α → α → Prop) (cycle : List α) : Prop where
  closes : ∃ node inner, cycle = node :: inner ++ [node]
  distinct : cycle.dropLast.Nodup
  follows : cycle.IsChain edge

/-! ## Ranks -/

theorem rank_falls {edge : α → α → Prop} {rank : α → Nat}
    (falls : ∀ first second, edge first second → rank second < rank first) {first second : α}
    (path : TransGen edge first second) : rank second < rank first := by
  induction path with
  | single last => exact falls _ _ last
  | tail _ last ih => exact Nat.lt_trans (falls _ _ last) ih

theorem Ranked.acyclic {edge : α → α → Prop} (ranked : Ranked edge) : Acyclic edge := by
  obtain ⟨rank, falls⟩ := ranked
  intro node cycle
  exact Nat.lt_irrefl _ (rank_falls falls cycle)

/-- In a graph without cycles the number of nodes below a node is a rank. -/
theorem Acyclic.ranked {edge : α → α → Prop} {nodes : List α} (acyclic : Acyclic edge)
    (confined : ∀ first second, edge first second → second ∈ nodes) : Ranked edge := by
  classical
  refine ⟨fun node => (nodes.toFinset.filter (TransGen edge node)).card,
    fun first second step => Finset.card_lt_card ?_⟩
  rw [Finset.ssubset_iff_of_subset]
  · refine ⟨second, ?_, ?_⟩
    · simpa using ⟨confined _ _ step, TransGen.single step⟩
    · simpa using fun _ => acyclic second
  · intro below present
    simp only [Finset.mem_filter] at present ⊢
    exact ⟨present.1, TransGen.head step present.2⟩

theorem acyclic_iff_ranked {edge : α → α → Prop} {nodes : List α}
    (confined : ∀ first second, edge first second → second ∈ nodes) :
    Acyclic edge ↔ Ranked edge :=
  ⟨fun acyclic => acyclic.ranked confined, Ranked.acyclic⟩

/-! ## Walks that end -/

/-- A node from which every walk ends is not reached from itself. -/
theorem not_cyclic_of_acc {edge : α → α → Prop} {node : α} (ends : Acc (flip edge) node) :
    ¬ TransGen edge node node := by
  induction ends with
  | intro node _ ih =>
    intro cycle
    obtain ⟨next, step, back⟩ := TransGen.head'_iff.1 cycle
    exact ih next step (TransGen.tail' back step)

/-- When every walk from a node that has an edge ends, there is no cycle. -/
theorem acyclic_of_acc {edge : α → α → Prop} {nodes : List α}
    (starts : ∀ first second, edge first second → first ∈ nodes)
    (ends : ∀ node ∈ nodes, Acc (flip edge) node) : Acyclic edge := by
  intro node cycle
  obtain ⟨next, step, _⟩ := TransGen.head'_iff.1 cycle
  exact not_cyclic_of_acc (ends node (starts node next step)) cycle

/-! ## Cycles -/

/-- Along a chain its first node reaches every later one. -/
theorem reaches_of_chain {edge : α → α → Prop} {first : α} {rest : List α}
    (chain : (first :: rest).IsChain edge) : ∀ node ∈ rest, TransGen edge first node := by
  induction rest generalizing first with
  | nil => simp
  | cons second rest ih =>
    obtain ⟨step, later⟩ := List.isChain_cons_cons.1 chain
    intro node present
    rcases List.mem_cons.1 present with rfl | inRest
    · exact .single step
    · exact .head step (ih later node inRest)

theorem SimpleCycle.cyclic {edge : α → α → Prop} {cycle : List α}
    (simple : SimpleCycle edge cycle) : ∃ node, TransGen edge node node := by
  obtain ⟨⟨node, inner, rfl⟩, _, follows⟩ := simple
  exact ⟨node, reaches_of_chain follows node (by simp)⟩

/-! ## Sources -/

theorem Acyclic.flip {edge : α → α → Prop} (acyclic : Acyclic edge) : Acyclic (flip edge) := by
  intro node cycle
  exact acyclic node (transGen_swap.1 cycle)

/-- In a graph without cycles every node inside a part of it is reached from a source of that part:
a node inside it that no node inside it has an edge to. -/
theorem exists_source {edge : α → α → Prop} {nodes : List α} (acyclic : Acyclic edge)
    (confined : ∀ first second, edge first second → first ∈ nodes) (inside : α → Prop) {node : α}
    (present : inside node) :
    ∃ source, inside source ∧ (∀ other, inside other → ¬ edge other source) ∧
      ReflTransGen edge source node := by
  -- The graph is ranked against its edges, so an edge into a node comes from a lower one.
  obtain ⟨depth, grows⟩ := acyclic.flip.ranked fun first second step => confined second first step
  induction level : depth node using Nat.strong_induction_on generalizing node with
  | _ bound ih =>
    by_cases entered : ∃ other, inside other ∧ edge other node
    · obtain ⟨other, otherInside, step⟩ := entered
      have higher : depth other < bound := level ▸ grows node other step
      obtain ⟨source, sourceInside, isSource, path⟩ := ih (depth other) higher otherInside rfl
      exact ⟨source, sourceInside, isSource, path.tail step⟩
    · exact ⟨node, present, fun other otherInside step => entered ⟨other, otherInside, step⟩, .refl⟩

end FeatureResolution
