import FeatureResolution.Proofs.WellFormed

/-!
# Which tables become registries

Once a table is coherent, only a cycle of implications keeps it from becoming a registry. The search
for cycles ends by itself whatever the table looks like, finds a cycle exactly when there is one,
and otherwise leaves flags that can be ranked so that every implication leads downwards.
-/

namespace FeatureResolution.Registry

open Relation

/-- What a coherent table is made into: the search for cycles comes to its end without any bound on
its steps; the table is refused as cyclic exactly when some flag implies itself through one or more
implications; and it becomes a registry exactly when its flags can be ranked along them. -/
theorem build_cyclic_iff (flags : List (Flag String)) (defaults : List String)
    (conflicts : List (String × String)) (artifact : Option (Artifact String))
    (coherent : Coherent flags (.ofList defaults) conflicts) :
    CycleSearch.Traverses (targets flags) (flags.map (·.name)) .start
        (CycleSearch.walk (targets flags) (flags.map (·.name))) ∧
      ((∃ cycle, build flags defaults conflicts artifact = .error (.implicationCycle cycle)) ↔
        ∃ name, TransGen (Implies flags) name name) ∧
      ((∃ registry, build flags defaults conflicts artifact = .ok registry) ↔
        Ranked (Implies flags)) := by
  have built : build flags defaults conflicts artifact = (checkAcyclic flags).map
      fun _ => ⟨markDefaults (.ofList defaults) flags, conflicts, artifact⟩ :=
    assemble_of_coherent coherent artifact
  have passes := checkAcyclic_eq_ok_iff coherent
  have ranked : Acyclic (Implies flags) ↔ Ranked (Implies flags) :=
    acyclic_iff_ranked coherent.targetsDeclared
  refine ⟨CycleSearch.traverses_walk (confined_targets coherent), ?_⟩
  rw [← ranked, ← passes, built]
  match outcome : checkAcyclic flags with
  | .ok () =>
    have acyclic := passes.1 outcome
    refine ⟨⟨?_, ?_⟩, ⟨fun _ => rfl, fun _ => ⟨_, rfl⟩⟩⟩
    · rintro ⟨cycle, ⟨⟩⟩
    · rintro ⟨name, path⟩
      exact absurd path (acyclic name)
  | .error error =>
    obtain ⟨cycle, rfl, simple⟩ := checkAcyclic_eq_error coherent outcome
    refine ⟨⟨fun _ => simple.cyclic, fun _ => ⟨cycle, rfl⟩⟩, ⟨?_, nofun⟩⟩
    rintro ⟨registry, ⟨⟩⟩

/-- A table whose only cycle lies below an acyclic root that two ways lead down from. -/
def loopBelowRoot : List (Flag String) :=
  [{ name := "root", implies := .ofList ["left", "right"] },
   { name := "left", implies := .ofList ["join"] },
   { name := "right", implies := .ofList ["join"] },
   { name := "join", implies := .ofList ["loop"] },
   { name := "loop", implies := .ofList ["join"] }]

theorem build_loopBelowRoot_cyclic :
    Coherent loopBelowRoot (.ofList ["left", "left"]) [("left", "right")] ∧
      ∃ cycle, build loopBelowRoot ["left", "left"] [("left", "right")] none =
        .error (.implicationCycle cycle) := by
  have coherent : Coherent loopBelowRoot (.ofList ["left", "left"]) [("left", "right")] := by
    decide
  refine ⟨coherent, (build_cyclic_iff loopBelowRoot ["left", "left"] [("left", "right")] none
    coherent).2.1.2 ⟨"join", ?_⟩⟩
  have down : Implies loopBelowRoot "join" "loop" := (mem_targets coherent.distinct).1 (by decide)
  have back : Implies loopBelowRoot "loop" "join" := (mem_targets coherent.distinct).1 (by decide)
  exact .tail (.single down) back

end FeatureResolution.Registry
