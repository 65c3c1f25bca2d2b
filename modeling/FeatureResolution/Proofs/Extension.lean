import FeatureResolution.Proofs.Agreement

/-!
# Adding unrelated flags

A table is extended when new flags are put in anywhere between its own and conflict pairs with new
members anywhere between its own; no new flag is a default, but each may imply any flag, old or new
(`Extension`). Nothing old leads to a new flag, since everything that an old flag implies was
declared before. So a request that names old flags alone enables the same flags in both registries
(`Extends.reached_iff`), meets the same contracts on them, and no added pair can be enabled
(`Extends.checkConflicts_eq`).

Result: such a request runs alike in both registries, and in the mask of what it enables the new
flags show as letters put in at their places.
-/

namespace FeatureResolution

/-! ## Rows with items put in -/

/-- The second row is the first with extra items put in anywhere. -/
inductive Inserted {α : Type} (extra : α → Prop) : List α → List α → Prop
  | nil : Inserted extra [] []
  | keep {item : α} {few many : List α} : Inserted extra few many →
      Inserted extra (item :: few) (item :: many)
  | insert {item : α} {few many : List α} : extra item → Inserted extra few many →
      Inserted extra few (item :: many)

/-- A row of letters, one for each item that is not extra, with a mark put in for each one that
is. -/
def withMarks {α : Type} (isExtra : α → Bool) (mark : Char) : List α → List Char → List Char
  | [], _ => []
  | item :: items, letters =>
    if isExtra item then mark :: withMarks isExtra mark items letters
    else letters.take 1 ++ withMarks isExtra mark items (letters.drop 1)

namespace Inserted

variable {α β : Type} {extra : α → Prop} {few many : List α}

theorem sublist (inserted : Inserted extra few many) : few.Sublist many := by
  induction inserted with
  | nil => exact .slnil
  | keep _ ih => exact ih.cons_cons _
  | insert _ _ ih => exact ih.cons _

theorem mem_or_extra (inserted : Inserted extra few many) {item : α} (present : item ∈ many) :
    item ∈ few ∨ extra item := by
  induction inserted with
  | nil => cases present
  | keep _ ih =>
    rcases List.mem_cons.1 present with rfl | later
    · exact .inl List.mem_cons_self
    · exact (ih later).imp (List.mem_cons_of_mem _) id
  | insert isExtra _ ih =>
    rcases List.mem_cons.1 present with rfl | later
    · exact .inr isExtra
    · exact ih later

theorem map {view : α → β} {extraView : β → Prop} (inserted : Inserted extra few many)
    (viewed : ∀ item, extra item → extraView (view item)) :
    Inserted extraView (few.map view) (many.map view) := by
  induction inserted with
  | nil => exact .nil
  | keep _ ih => exact .keep ih
  | insert isExtra _ ih => exact .insert (viewed _ isExtra) ih

/-- Extra items that pass leave a row of checks as it is. -/
theorem forM_eq {ε : Type} {check : α → Except ε Unit} (inserted : Inserted extra few many)
    (passes : ∀ item, extra item → check item = .ok ()) : many.forM check = few.forM check := by
  induction inserted with
  | nil => rfl
  | keep _ ih => rw [forM_cons, forM_cons, ih]
  | insert isExtra _ ih => rw [forM_cons, passes _ isExtra, ok_bind, ih]

/-- Letters for all items are those for the old ones, with marks put in for the extra ones. -/
theorem map_eq_withMarks {isExtra : α → Bool} {letter : α → Char} {mark : Char}
    (inserted : Inserted extra few many) (old : ∀ item ∈ few, isExtra item = false)
    (new : ∀ item, extra item → isExtra item = true ∧ letter item = mark) :
    many.map letter = withMarks isExtra mark many (few.map letter) := by
  induction inserted with
  | nil => rfl
  | keep _ ih =>
    obtain ⟨headOld, restOld⟩ := List.forall_mem_cons.1 old
    simp [withMarks, headOld, ih restOld]
  | insert headExtra _ ih =>
    obtain ⟨headNew, marked⟩ := new _ headExtra
    simp [withMarks, headNew, marked, ih old]

end Inserted

/-! ## Extended registries -/

/-- Flags and conflict pairs are added to those of a table. The new flags have new names and are no
defaults, and each new pair names a flag that is not of the table. -/
structure Extension (flags larger : List (Flag String)) (defaults : List String)
    (conflicts more : List (String × String)) : Prop where
  flagsAdded : Inserted (fun flag => flag.name ∉ flags.map (·.name) ∧ flag.isDefault = false ∧
    flag.name ∉ defaults) flags larger
  pairsAdded : Inserted (fun pair => pair.1 ∉ flags.map (·.name) ∨ pair.2 ∉ flags.map (·.name))
    conflicts more

namespace Registry

variable {registry extended : Registry String}

/-- The flags and conflict pairs of one registry are those of another and unrelated ones. -/
structure Extends (registry extended : Registry String) : Prop where
  flagsAdded : Inserted (fun flag => flag.name ∉ registry.names ∧ flag.isDefault = false)
    registry.flags extended.flags
  pairsAdded : Inserted (fun pair => pair.1 ∉ registry.names ∨ pair.2 ∉ registry.names)
    registry.conflicts extended.conflicts

theorem extends_of_build {flags larger : List (Flag String)} {defaults : List String}
    {conflicts more : List (String × String)} {artifact other : Option (Artifact String)}
    (extension : Extension flags larger defaults conflicts more)
    (built : build flags defaults conflicts artifact = .ok registry)
    (extendedBuilt : build larger defaults more other = .ok extended) :
    registry.Extends extended := by
  have names := names_of_build built
  obtain ⟨_, _, rfl⟩ := build_eq_ok_iff.1 built
  obtain ⟨_, _, rfl⟩ := build_eq_ok_iff.1 extendedBuilt
  refine ⟨extension.flagsAdded.map ?_, names ▸ extension.pairsAdded⟩
  -- A new flag is not marked, since the default list does not name it.
  rintro flag ⟨isNew, notDefault, unlisted⟩
  rw [names, if_neg (by simpa using unlisted)]
  exact ⟨isNew, notDefault⟩

namespace Extends

theorem mem_flags (extension : registry.Extends extended) {flag : Flag String}
    (present : flag ∈ extended.flags) (old : flag.name ∈ registry.names) :
    flag ∈ registry.flags :=
  (extension.flagsAdded.mem_or_extra present).resolve_right fun isNew => isNew.1 old

theorem names_subset (extension : registry.Extends extended) :
    registry.names ⊆ extended.names :=
  List.map_subset _ extension.flagsAdded.sublist.subset

theorem get_eq (extension : registry.Extends extended) (distinct : registry.names.Nodup)
    (extendedDistinct : extended.names.Nodup) {name : String} (old : name ∈ registry.names) :
    extended.get name = registry.get name := by
  obtain ⟨flag, present, rfl⟩ := List.mem_map.1 old
  have kept := extension.flagsAdded.sublist.subset present
  rw [get_of_mem distinct present, get_of_mem extendedDistinct kept]

theorem defaultSet_eq (extension : registry.Extends extended) :
    extended.defaultSet = registry.defaultSet := by
  ext name
  rw [mem_defaultSet, mem_defaultSet]
  constructor
  · rintro ⟨flag, present, named, isDefault⟩
    rcases extension.flagsAdded.mem_or_extra present with old | ⟨_, notDefault⟩
    · exact ⟨flag, old, named, isDefault⟩
    · cases notDefault.symm.trans isDefault
  · rintro ⟨flag, present, found⟩
    exact ⟨flag, extension.flagsAdded.sublist.subset present, found⟩

theorem implies_iff (extension : registry.Extends extended) {source target : String}
    (old : source ∈ registry.names) :
    Implies extended.flags source target ↔ Implies registry.flags source target := by
  constructor
  · rintro ⟨flag, present, rfl, implied⟩
    exact ⟨flag, extension.mem_flags present old, rfl, implied⟩
  · rintro ⟨flag, present, found⟩
    exact ⟨flag, extension.flagsAdded.sublist.subset present, found⟩

/-- From old flags both registries reach the same flags. -/
theorem reached_iff (extension : registry.Extends extended) (wellFormed : registry.WellFormed)
    {start : String → Prop} (startsOld : ∀ name, start name → name ∈ registry.names)
    {name : String} : extended.Reached start name ↔ registry.Reached start name := by
  constructor
  · rintro ⟨source, started, path⟩
    induction path with
    | refl => exact ⟨source, started, .refl⟩
    | tail _ step ih =>
      -- What was reached before is old, and an old flag implies only what it implied before.
      have old := ih.declared wellFormed startsOld
      obtain ⟨origin, originStarted, before⟩ := ih
      exact ⟨origin, originStarted, before.tail ((extension.implies_iff old).1 step)⟩
  · rintro ⟨source, started, path⟩
    refine ⟨source, started, Relation.ReflTransGen.mono ?_ source name path⟩
    exact fun _ _ step => (extension.implies_iff step.source_declared).2 step

theorem resolve_eq (extension : registry.Extends extended) (wellFormed : registry.WellFormed)
    (extendedWellFormed : extended.WellFormed) {requested : NameSet String}
    (known : ∀ name ∈ requested, ¬ registry.Unknown name) (defaultFeatures : Bool) :
    extended.resolve requested defaultFeatures = registry.resolve requested defaultFeatures := by
  refine resolve_congr wellFormed extendedWellFormed (fun name present => ?_) fun name => ?_
  · -- Nothing requested is unknown to the larger registry either, since it has all the old flags.
    refine iff_of_false (fun unknown => known name present ⟨unknown.1, fun old => ?_⟩)
      (known name present)
    exact unknown.2 (extension.names_subset old)
  · unfold Enables Starts
    rw [extension.defaultSet_eq]
    exact extension.reached_iff wellFormed fun name starts => Starts.declared known starts

/-- No added pair is enabled where only old flags are. -/
theorem checkConflicts_eq (extension : registry.Extends extended) {capabilities : NameSet String}
    (old : ∀ name ∈ capabilities, name ∈ registry.names) :
    extended.checkConflicts capabilities = registry.checkConflicts capabilities := by
  rw [checkConflicts_eq_forM, checkConflicts_eq_forM]
  refine extension.pairsAdded.forM_eq fun pair isNew => if_neg fun clash => ?_
  -- Both members of a pair that clashes are enabled, and a new pair has a member that is new.
  rcases isNew with firstNew | secondNew
  · exact firstNew (old pair.1 clash.1)
  · exact secondNew (old pair.2 clash.2)

theorem mask_eq (extension : registry.Extends extended) {capabilities : NameSet String}
    (old : ∀ name ∈ capabilities, name ∈ registry.names) :
    (extended.mask capabilities).toList =
      withMarks (· ∉ registry.names) 'N' extended.names (registry.mask capabilities).toList := by
  have inserted : Inserted (· ∉ registry.names) registry.names extended.names :=
    extension.flagsAdded.map fun _ isNew => isNew.1
  simp only [mask, String.toList_ofList]
  refine inserted.map_eq_withMarks (fun name present => by simpa using present) ?_
  intro name isNew
  exact ⟨by simpa using isNew, if_neg fun enabled => isNew (old name enabled)⟩

end Extends

/-! ## Result -/

/-- Adding unrelated flags to a table changes nothing for requests that name only its own flags and
the default set: they run alike against both registries, to the same flags and items or to the same
error, and the mask of what is enabled has an `N` put in at the place of each new flag. -/
theorem run_extended (flags larger : List (Flag String)) (defaults : List String)
    (conflicts more : List (String × String)) (artifact other : Option (Artifact String))
    (registry extended : Registry String)
    (extension : Extension flags larger defaults conflicts more)
    (built : build flags defaults conflicts artifact = .ok registry)
    (extendedBuilt : build larger defaults more other = .ok extended) (request : Request String)
    (confined : ∀ name ∈ request.features, name = defaultSetName ∨ name ∈ flags.map (·.name)) :
    extended.run request = registry.run request ∧
      ∀ result, registry.run request = .ok result →
        (extended.mask result.capabilities).toList =
          withMarks (· ∉ flags.map (·.name)) 'N' (larger.map (·.name))
            (registry.mask result.capabilities).toList := by
  have wellFormed : registry.WellFormed := Constructed.wellFormed ⟨_, _, _, _, built⟩
  have extendedWellFormed : extended.WellFormed :=
    Constructed.wellFormed ⟨_, _, _, _, extendedBuilt⟩
  have added := extends_of_build extension built extendedBuilt
  have names := names_of_build built
  have known : ∀ name ∈ request.features, ¬ registry.Unknown name := by
    intro name present unknown
    rw [Unknown, names] at unknown
    exact (confined name present).elim unknown.1 unknown.2
  refine ⟨run_congr ?_ fun capabilities resolved => ?_, fun result built => ?_⟩
  · exact added.resolve_eq wellFormed extendedWellFormed known request.defaultFeatures.truthy
  · have old := resolve_declared wellFormed resolved
    refine ⟨fun name present => ?_, added.checkConflicts_eq old⟩
    exact added.get_eq wellFormed.coherent.distinct extendedWellFormed.coherent.distinct
      (old name present)
  · obtain ⟨_, resolved, _⟩ := run_eq_ok_iff_stages.1 built
    rw [added.mask_eq (resolve_declared wellFormed resolved), names, names_of_build extendedBuilt]

/-- The small registry with a flag put in first that leads to old flags, one put in between that an
old flag and a new pair exclude, and one put in last that both lead to. -/
def largerRegistry : Registry String where
  flags :=
    { name := "all", implies := .ofList ["derive", "rc", "trace"] } ::
      (smallRegistry.flags.take 2 ++
        { name := "mini", implies := .ofList ["trace"], provides := .ofList ["Vec"] } ::
          (smallRegistry.flags.drop 2 ++ [{ name := "trace" }]))
  conflicts := [("mini", "std"), ("tiny", "std"), ("rc", "mini")]
  artifact := none

theorem run_largerRegistry :
    Extension smallRegistry.flags largerRegistry.flags [] smallRegistry.conflicts
        largerRegistry.conflicts ∧
      build smallRegistry.flags [] smallRegistry.conflicts none = .ok smallRegistry ∧
      build largerRegistry.flags [] largerRegistry.conflicts none = .ok largerRegistry ∧
      (∀ name ∈ (pinnedRequest ["default", "derive"] false).features,
        name = defaultSetName ∨ name ∈ smallRegistry.flags.map (·.name)) ∧
      largerRegistry.run (pinnedRequest ["default", "derive"] false) =
        smallRegistry.run (pinnedRequest ["default", "derive"] false) ∧
      smallRegistry.mask (.ofList ["derive", "macros", "std"]) = "YYNYN" ∧
      (largerRegistry.mask (.ofList ["derive", "macros", "std"])).toList = "NYYNNYNN".toList := by
  have extension : Extension smallRegistry.flags largerRegistry.flags []
      smallRegistry.conflicts largerRegistry.conflicts := {
    flagsAdded := .insert (by decide) (.keep (.keep (.insert (by decide)
      (.keep (.keep (.keep (.insert (by decide) .nil)))))))
    pairsAdded := .insert (by decide) (.keep (.insert (by decide) .nil)) }
  have built : build smallRegistry.flags [] smallRegistry.conflicts none = .ok smallRegistry := by
    decide
  have largerBuilt : build largerRegistry.flags [] largerRegistry.conflicts none =
      .ok largerRegistry := by
    decide
  have confined : ∀ name ∈ (pinnedRequest ["default", "derive"] false).features,
      name = defaultSetName ∨ name ∈ smallRegistry.flags.map (·.name) := by
    simp [pinnedRequest, smallRegistry, defaultSetName]
  have enabled : smallRegistry.run (pinnedRequest ["default", "derive"] false) =
      .ok ⟨pinnedRequest ["default", "derive"] false, .ofList ["derive", "macros", "std"],
        .ofList ["Derive", "String", "Vec"]⟩ := by
    decide
  obtain ⟨alike, marked⟩ := run_extended _ _ _ _ _ _ _ _ _ extension built largerBuilt
    (pinnedRequest ["default", "derive"] false) confined
  exact ⟨extension, built, largerBuilt, confined, alike, by decide,
    (marked _ enabled).trans (by decide)⟩

end Registry

end FeatureResolution
