import FeatureResolution.Proofs.Agreement

/-!
# The order of declarations

A row is reordered by a row of its positions (`reorder`). When the flags of a table are reordered,
the names declared and the implications between them stay the same, and so does everything that the
construction of a registry asks for: the reordered table is made into a registry exactly when the
table is, and that registry is the reordered one (`assemble_reorder_iff`).

Result: a registry and the reordered one are interchangeable (`Interchangeable`). What is asked of
them by name is the same, and what they list is listed in the other order.
-/

namespace FeatureResolution

/-! ## Rows in another order -/

/-- The items of a row at the given positions. -/
def reorder {α : Type} (positions : List Nat) (items : List α) : List α :=
  positions.filterMap (items[·]?)

/-- Each position of a row is given once. -/
def Arranges {α : Type} (positions : List Nat) (items : List α) : Prop :=
  positions.Perm (List.range items.length)

instance {α : Type} (positions : List Nat) (items : List α) :
    Decidable (Arranges positions items) :=
  inferInstanceAs (Decidable (List.Perm _ _))

theorem reorder_range {α : Type} (items : List α) :
    reorder (List.range items.length) items = items := by
  induction items with
  | nil => rfl
  | cons head rest ih =>
    unfold reorder at ih ⊢
    rw [List.length_cons, List.range_succ_eq_map, List.filterMap_cons_some List.getElem?_cons_zero,
      List.filterMap_map]
    exact congrArg (head :: ·) ih

theorem Arranges.perm {α : Type} {positions : List Nat} {items : List α}
    (arranges : Arranges positions items) : (reorder positions items).Perm items := by
  have perm := List.Perm.filterMap (items[·]?) arranges
  rwa [← reorder, ← reorder, reorder_range] at perm

theorem Arranges.of_length {α β : Type} {positions : List Nat} {items : List α} {others : List β}
    (arranges : Arranges positions items) (same : others.length = items.length) :
    Arranges positions others := by
  rw [Arranges, same]
  exact arranges

theorem map_reorder {α β : Type} (view : α → β) (positions : List Nat) (items : List α) :
    (reorder positions items).map view = reorder positions (items.map view) := by
  simp [reorder, List.map_filterMap]

/-- What a reordered row is read to is what the row is read to, reordered. -/
theorem mapM_reorder_eq_ok_iff {ε α β : Type} {read : α → Except ε β} {positions : List Nat}
    {items : List α} (arranges : Arranges positions items) {results : List β} :
    (reorder positions items).mapM read = .ok results ↔
      ∃ inOrder, items.mapM read = .ok inOrder ∧ results = reorder positions inOrder := by
  have reordered {inOrder : List β} (readInOrder : items.mapM read = .ok inOrder) :
      (reorder positions items).mapM read = .ok (reorder positions inOrder) := by
    rw [mapM_eq_ok_iff_map] at readInOrder ⊢
    rw [map_reorder, map_reorder, readInOrder]
  constructor
  · intro allRead
    -- The row has no item that the reordered row does not have, so it can be read as well.
    have readable : ∀ item ∈ items, ∃ result, read item = .ok result := fun item present =>
      readable_of_mapM allRead item (arranges.perm.mem_iff.2 present)
    obtain ⟨inOrder, readInOrder, _⟩ := mapM_eq_ok readable
    exact ⟨inOrder, readInOrder, Except.ok.inj (allRead.symm.trans (reordered readInOrder))⟩
  · rintro ⟨inOrder, readInOrder, rfl⟩
    exact reordered readInOrder

/-! ## Tables in another order -/

theorem implies_perm {flags others : List (Flag String)} (perm : others.Perm flags) :
    Implies others = Implies flags := by
  funext source target
  exact propext (exists_congr fun flag => and_congr_left fun _ => perm.mem_iff)

theorem Coherent.of_perm {flags others : List (Flag String)} {defaults : NameSet String}
    {conflicts : List (String × String)} (coherent : Coherent flags defaults conflicts)
    (perm : others.Perm flags) : Coherent others defaults conflicts := by
  have names := perm.map (·.name)
  obtain ⟨unreserved, distinct, defaultsDeclared, targetsDeclared, membersDeclared⟩ := coherent
  refine ⟨?_, names.nodup_iff.2 distinct, ?_, ?_, ?_⟩
  · exact fun present => unreserved (names.mem_iff.1 present)
  · exact fun name listed => names.mem_iff.2 (defaultsDeclared name listed)
  · rw [implies_perm perm]
    exact fun source target step => names.mem_iff.2 (targetsDeclared source target step)
  · intro pair declared
    exact (membersDeclared pair declared).imp names.mem_iff.2 names.mem_iff.2

namespace Registry

variable {registry : Registry String} {positions : List Nat}

/-- A registry with its flags in another order. -/
def rearrange (positions : List Nat) (registry : Registry String) : Registry String :=
  { registry with flags := reorder positions registry.flags }

/-- A reordered table becomes the reordered registry, and only where the table becomes one. -/
theorem assemble_reorder_iff {flags : List (Flag String)}
    {defaults : Except Error (NameSet String)}
    {conflicts : Except Error (List (Except Error (String × String)))}
    {artifact : Option (Artifact String)} (arranges : Arranges positions flags)
    {result : Registry String} :
    assemble (reorder positions flags) defaults conflicts artifact = .ok result ↔
      ∃ registry, assemble flags defaults conflicts artifact = .ok registry ∧
        result = registry.rearrange positions := by
  simp only [assemble_eq_ok_iff, implies_perm arranges.perm]
  constructor
  · -- Acyclicity is asked of the implications, and these are the same for both tables.
    rintro ⟨named, pairs, rfl, rfl, coherent, acyclic, rfl⟩
    have inOrder := coherent.of_perm arranges.perm.symm
    refine ⟨_, ⟨named, pairs, rfl, rfl, inOrder, acyclic, rfl⟩, ?_⟩
    rw [rearrange, markDefaults, map_reorder, markDefaults]
  · rintro ⟨_, ⟨named, pairs, rfl, rfl, coherent, acyclic, rfl⟩, rfl⟩
    refine ⟨named, pairs, rfl, rfl, coherent.of_perm arranges.perm, acyclic, ?_⟩
    rw [rearrange, markDefaults, ← map_reorder, markDefaults]

theorem arranges_of_assemble {flags : List (Flag String)}
    {defaults : Except Error (NameSet String)}
    {conflicts : Except Error (List (Except Error (String × String)))}
    {artifact : Option (Artifact String)} (arranges : Arranges positions flags)
    (made : assemble flags defaults conflicts artifact = .ok registry) :
    Arranges positions registry.flags := by
  obtain ⟨named, pairs, _, _, _, _, rfl⟩ := assemble_eq_ok_iff.1 made
  exact arranges.of_length (List.length_map _)

/-! ## Registries in another order -/

theorem names_rearrange : (registry.rearrange positions).names = reorder positions registry.names :=
  map_reorder _ positions registry.flags

theorem mem_names_rearrange (arranges : Arranges positions registry.flags) {name : String} :
    name ∈ (registry.rearrange positions).names ↔ name ∈ registry.names :=
  (arranges.perm.map (·.name)).mem_iff

theorem defaultSet_rearrange (arranges : Arranges positions registry.flags) :
    (registry.rearrange positions).defaultSet = registry.defaultSet := by
  ext name
  rw [mem_defaultSet, mem_defaultSet]
  exact exists_congr fun flag => and_congr_left fun _ => arranges.perm.mem_iff

theorem WellFormed.rearrange (wellFormed : registry.WellFormed)
    (arranges : Arranges positions registry.flags) :
    (registry.rearrange positions).WellFormed := by
  refine ⟨?_, ?_⟩
  · rw [defaultSet_rearrange arranges]
    exact wellFormed.coherent.of_perm arranges.perm
  · rw [show Implies (registry.rearrange positions).flags = Implies registry.flags from
      implies_perm arranges.perm]
    exact wellFormed.acyclic

/-- Since names are distinct, the order of the flags does not matter to a look-up. -/
theorem get_rearrange (wellFormed : registry.WellFormed)
    (arranges : Arranges positions registry.flags) (name : String) :
    (registry.rearrange positions).get name = registry.get name := by
  by_cases declared : name ∈ registry.names
  · obtain ⟨flag, present, rfl⟩ := List.mem_map.1 declared
    rw [get_of_mem wellFormed.coherent.distinct present,
      get_of_mem (wellFormed.rearrange arranges).coherent.distinct
        (arranges.perm.mem_iff.2 present)]
  · rw [get_of_not_mem declared,
      get_of_not_mem fun present => declared ((mem_names_rearrange arranges).1 present)]

theorem resolve_rearrange (wellFormed : registry.WellFormed)
    (arranges : Arranges positions registry.flags) (requested : NameSet String)
    (defaultFeatures : Bool) : (registry.rearrange positions).resolve requested defaultFeatures =
      registry.resolve requested defaultFeatures := by
  refine resolve_congr wellFormed (wellFormed.rearrange arranges) (fun name _ => ?_) fun name => ?_
  · rw [Unknown, Unknown, mem_names_rearrange arranges]
  · unfold Enables Reached Starts
    rw [defaultSet_rearrange arranges, rearrange, implies_perm arranges.perm]

theorem explain_rearrange (wellFormed : registry.WellFormed)
    (arranges : Arranges positions registry.flags) (capabilities : NameSet String) :
    (registry.rearrange positions).explain capabilities = registry.explain capabilities := by
  have implied : (registry.rearrange positions).impliedBy = registry.impliedBy := by
    funext name
    rw [impliedBy, impliedBy, get_rearrange wellFormed arranges]
  rw [explain, explain, implied]

theorem agreeOn_rearrange (wellFormed : registry.WellFormed)
    (arranges : Arranges positions registry.flags) (names : NameSet String) :
    AgreeOn names registry (registry.rearrange positions) :=
  fun name _ => get_rearrange wellFormed arranges name

theorem pinned_rearrange (arranges : Arranges positions registry.flags) (mode : BuildMode) :
    ((registry.rearrange positions).pinned mode).Perm (registry.pinned mode) :=
  arranges.perm.filterMap _

/-- The release check asks something of every pin, in whatever order. -/
theorem checkLockstep_rearrange (arranges : Arranges positions registry.flags) :
    (registry.rearrange positions).checkLockstep = .ok () ↔ registry.checkLockstep = .ok () := by
  unfold checkLockstep rearrange
  cases registry.artifact with
  | none => rfl
  | some owner =>
    have pins := pinned_rearrange arranges .release
    simp only [forM_eq_ok_iff]
    exact forall_congr' fun pin => imp_congr_left pins.mem_iff

theorem mask_rearrange (capabilities : NameSet String) :
    ((registry.rearrange positions).mask capabilities).toList =
      reorder positions (registry.mask capabilities).toList := by
  rw [mask, mask, String.toList_ofList, String.toList_ofList, names_rearrange, map_reorder]

/-! ## Result -/

/-- Two registries, the second with its flags at the given positions of the first, give the same
answers to everything: the same default set, the same flag under every name, the same result or the
same error of every resolution, explanation, validation, surface and run. What lists the flags lists
them in the other order, and one passes the release check when the other does. -/
structure Interchangeable (positions : List Nat) (registry other : Registry String) : Prop where
  defaultSet : other.defaultSet = registry.defaultSet
  get : ∀ name, other.get name = registry.get name
  resolve : ∀ requested defaultFeatures,
    other.resolve requested defaultFeatures = registry.resolve requested defaultFeatures
  explain : ∀ capabilities, other.explain capabilities = registry.explain capabilities
  validate : ∀ capabilities declared mode,
    other.validate capabilities declared mode = registry.validate capabilities declared mode
  materialize : ∀ capabilities,
    other.materialize capabilities = registry.materialize capabilities
  run : ∀ request, other.run request = registry.run request
  pinned : ∀ mode, (other.pinned mode).Perm (registry.pinned mode)
  lockstep : other.checkLockstep = .ok () ↔ registry.checkLockstep = .ok ()
  mask : ∀ capabilities, (other.mask capabilities).toList =
    reorder positions (registry.mask capabilities).toList

theorem interchangeable_rearrange (wellFormed : registry.WellFormed)
    (arranges : Arranges positions registry.flags) :
    Interchangeable positions registry (registry.rearrange positions) where
  defaultSet := defaultSet_rearrange arranges
  get := get_rearrange wellFormed arranges
  resolve := resolve_rearrange wellFormed arranges
  explain := explain_rearrange wellFormed arranges
  validate capabilities :=
    validate_congr (agreeOn_rearrange wellFormed arranges capabilities)
  materialize capabilities :=
    materialize_congr (agreeOn_rearrange wellFormed arranges capabilities) rfl
  run _ := run_congr (resolve_rearrange wellFormed arranges _ _) fun capabilities _ =>
    ⟨agreeOn_rearrange wellFormed arranges capabilities, rfl⟩
  pinned := pinned_rearrange arranges
  lockstep := checkLockstep_rearrange arranges
  mask := mask_rearrange

end Registry

end FeatureResolution
