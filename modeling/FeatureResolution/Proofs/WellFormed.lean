import FeatureResolution.Proofs.Checks
import FeatureResolution.Proofs.CycleSearch
import FeatureResolution.Registry

/-!
# Well-formed registries

A table is coherent when its names are distinct and none is reserved, and when every name in its
default list, its implications and its conflict pairs is declared. The checks on a table pass
exactly when it is coherent, and what they then make of it is a registry unless its implications
form a cycle (`assemble_of_coherent`, `assemble_eq_ok_iff`, `build_eq_ok_iff`).

`WellFormed` says the same of a registry: it is coherent as it stands and its implications form no
cycle. The well-formed registries are exactly those that a table has been made into
(`wellFormed_iff_constructed`).
-/

namespace FeatureResolution

/-- One flag implies another directly. -/
def Implies (flags : List (Flag String)) (source target : String) : Prop :=
  ∃ flag ∈ flags, flag.name = source ∧ target ∈ flag.implies

/-- What has to hold of flags, default names and conflict pairs before their implications are
searched for cycles. -/
structure Coherent (flags : List (Flag String)) (defaults : NameSet String)
    (conflicts : List (String × String)) : Prop where
  unreserved : defaultSetName ∉ flags.map (·.name)
  distinct : (flags.map (·.name)).Nodup
  defaultsDeclared : ∀ name ∈ defaults, name ∈ flags.map (·.name)
  targetsDeclared : ∀ source target, Implies flags source target → target ∈ flags.map (·.name)
  membersDeclared : ∀ pair ∈ conflicts,
    pair.1 ∈ flags.map (·.name) ∧ pair.2 ∈ flags.map (·.name)

/-- Whether a table is coherent depends only on its names and its implications. -/
theorem Coherent.congr {flags others : List (Flag String)} {defaults : NameSet String}
    {conflicts : List (String × String)} (coherent : Coherent flags defaults conflicts)
    (names : others.map (·.name) = flags.map (·.name)) (steps : Implies others = Implies flags) :
    Coherent others defaults conflicts where
  unreserved := names ▸ coherent.unreserved
  distinct := names ▸ coherent.distinct
  defaultsDeclared := names ▸ coherent.defaultsDeclared
  targetsDeclared := names ▸ steps ▸ coherent.targetsDeclared
  membersDeclared := names ▸ coherent.membersDeclared

theorem Implies.source_declared {flags : List (Flag String)} {source target : String}
    (step : Implies flags source target) : source ∈ flags.map (·.name) := by
  obtain ⟨flag, present, rfl, _⟩ := step
  exact List.mem_map_of_mem present

namespace Registry

/-! ## The graph that the search follows -/

theorem targets_text (flags : List (Flag String)) (name : String) :
    targets flags name =
      match Flag.find? name flags with
      | some flag => flag.implies.toList
      | none => [] := by
  unfold targets
  cases Flag.find? name flags with
  | none => rfl
  | some flag => exact List.filter_eq_self.2 fun target _ => by simp [Label.document]

theorem mem_targets {flags : List (Flag String)} (distinct : (flags.map (·.name)).Nodup)
    {source target : String} : target ∈ targets flags source ↔ Implies flags source target := by
  rw [targets_text]
  constructor
  · intro present
    split at present
    · next flag found =>
      obtain ⟨inTable, named⟩ := Flag.mem_of_find? found
      exact ⟨flag, inTable, named, NameSet.mem_toList.1 present⟩
    · cases present
  · rintro ⟨flag, inTable, rfl, implied⟩
    rw [Flag.find?_of_mem distinct inTable]
    exact NameSet.mem_toList.2 implied

theorem edge_targets {flags : List (Flag String)} (distinct : (flags.map (·.name)).Nodup) :
    CycleSearch.Edge (targets flags) = Implies flags := by
  funext source target
  exact propext (mem_targets distinct)

theorem confined_targets {flags : List (Flag String)} {defaults : NameSet String}
    {conflicts : List (String × String)} (coherent : Coherent flags defaults conflicts) :
    CycleSearch.Confined (targets flags) (flags.map (·.name)) := by
  intro source target present
  have step := (mem_targets coherent.distinct).1 present
  exact ⟨step.source_declared, coherent.targetsDeclared source target step⟩

/-! ## Marking defaults -/

/-- Marking a flag changes neither its name nor what it implies. -/
theorem map_markDefaults {β : Type} {view : Flag String → β}
    (unmarked : ∀ flag : Flag String, view { flag with isDefault := true } = view flag)
    (defaults : NameSet String) (flags : List (Flag String)) :
    (markDefaults defaults flags).map view = flags.map view := by
  rw [markDefaults, List.map_map]
  refine List.map_congr_left fun flag _ => ?_
  simp only [Function.comp_apply]
  split
  · exact unmarked flag
  · rfl

theorem map_name_markDefaults (defaults : NameSet String) (flags : List (Flag String)) :
    (markDefaults defaults flags).map (·.name) = flags.map (·.name) :=
  map_markDefaults (fun _ => rfl) defaults flags

theorem implies_iff_mem_map {flags : List (Flag String)} {source target : String} :
    Implies flags source target ↔
      ∃ edges ∈ flags.map fun flag => (flag.name, flag.implies),
        edges.1 = source ∧ target ∈ edges.2 := by
  simp [Implies]

theorem implies_markDefaults (defaults : NameSet String) (flags : List (Flag String)) :
    Implies (markDefaults defaults flags) = Implies flags := by
  funext source target
  rw [eq_iff_iff, implies_iff_mem_map, implies_iff_mem_map, map_markDefaults fun _ => rfl]

theorem coherent_markDefaults {defaults : NameSet String} {flags : List (Flag String)}
    {conflicts : List (String × String)} (coherent : Coherent flags defaults conflicts)
    (marks : NameSet String) : Coherent (markDefaults marks flags) defaults conflicts :=
  coherent.congr (map_name_markDefaults marks flags) (implies_markDefaults marks flags)

theorem targets_markDefaults (defaults : NameSet String) (flags : List (Flag String)) :
    targets (markDefaults defaults flags) = targets flags := by
  funext name
  rw [targets_text, targets_text, Flag.find?, markDefaults, List.find?_map]
  have sameTest : ((fun flag : Flag String => Label.same flag.name name) ∘ fun flag =>
      if flag.name ∈ defaults then { flag with isDefault := true } else flag) =
      fun flag => Label.same flag.name name := by
    funext flag
    simp only [Function.comp_apply]
    split <;> rfl
  rw [sameTest, Flag.find?]
  cases flags.find? fun flag => Label.same flag.name name with
  | none => rfl
  | some flag =>
    simp only [Option.map_some]
    split <;> rfl

theorem checkAcyclic_markDefaults (defaults : NameSet String) (flags : List (Flag String)) :
    checkAcyclic (markDefaults defaults flags) = checkAcyclic flags := by
  rw [checkAcyclic, checkAcyclic, targets_markDefaults, map_name_markDefaults]

/-! ## The checks -/

theorem checkNames_eq_ok_iff {seen : List String} {flags : List (Flag String)} :
    checkNames seen flags = .ok () ↔
      defaultSetName ∉ flags.map (·.name) ∧ (flags.map (·.name)).Nodup ∧
        ∀ name ∈ flags.map (·.name), name ∉ seen := by
  induction flags generalizing seen with
  | nil => simp [checkNames]
  | cons head rest ih =>
    unfold checkNames
    by_cases reserved : head.name = defaultSetName
    · rw [if_pos (by simpa [Label.ofText] using reserved)]
      simp [reserved]
    · rw [if_neg (by simpa [Label.ofText] using reserved), Label.isKey_text]
      by_cases repeated : head.name ∈ seen
      · simp [repeated]
      · simp only [List.any_eq_true, Label.same_text, decide_eq_true_eq]
        rw [if_neg (by simp), if_neg (by simpa using repeated), ih]
        simp [repeated]
        grind

/-- Names are checked up to the first that is not declared. -/
theorem checkDeclared_text (flags : List (Flag String)) (names : List String) :
    checkDeclared flags names =
      match names.find? fun name => !Flag.isDeclared name flags with
      | some name => .error (.unknownFlag (.text name))
      | none => .ok () := by
  induction names with
  | nil => rfl
  | cons head rest ih =>
    rw [checkDeclared, Label.isKey_text]
    by_cases declared : Flag.isDeclared head flags = true
    · simp [declared, ih]
    · simp [declared]
      rfl

theorem checkDeclared_eq_ok_iff {flags : List (Flag String)} {names : List String} :
    checkDeclared flags names = .ok () ↔ ∀ name ∈ names, name ∈ flags.map (·.name) := by
  have noneFound : (names.find? fun name => !Flag.isDeclared name flags) = none ↔
      ∀ name ∈ names, name ∈ flags.map (·.name) := by
    rw [List.find?_eq_none]
    simp only [← Flag.isDeclared_iff, Bool.not_eq_true, Bool.not_eq_false']
  rw [checkDeclared_text, ← noneFound]
  split
  · next found => simp [found]
  · next found => simp [found]

theorem checkTargets_eq_ok_iff {flags : List (Flag String)} :
    checkTargets flags = .ok () ↔
      ∀ source target, Implies flags source target → target ∈ flags.map (·.name) := by
  rw [checkTargets, forM_eq_ok_iff]
  simp only [NameSet.sorted_text, bind_eq_ok_iff, Except.ok.injEq, exists_eq_left',
    checkDeclared_eq_ok_iff, NameSet.mem_toList]
  constructor
  · rintro declared source target ⟨flag, present, _, implied⟩
    exact declared flag present target implied
  · exact fun declared flag present target implied =>
      declared flag.name target ⟨flag, present, rfl, implied⟩

theorem checkPair_eq_ok_iff {flags : List (Flag String)} {pair : Except Error (String × String)}
    {result : String × String} : checkPair flags pair = .ok result ↔
      pair = .ok result ∧ result.1 ∈ flags.map (·.name) ∧ result.2 ∈ flags.map (·.name) := by
  have declared (first second : String) : checkDeclared flags [first, second] = .ok () ↔
      first ∈ flags.map (·.name) ∧ second ∈ flags.map (·.name) := by
    rw [checkDeclared_eq_ok_iff]
    simp
  rw [checkPair, bind_eq_ok_iff]
  constructor
  · rintro ⟨⟨first, second⟩, read, checked⟩
    obtain ⟨⟨⟩, bothDeclared, ⟨⟩⟩ := bind_eq_ok_iff.1 checked
    exact ⟨read, (declared first second).1 bothDeclared⟩
  · rintro ⟨read, bothDeclared⟩
    exact ⟨result, read, bind_eq_ok_iff.2 ⟨(), (declared _ _).2 bothDeclared, rfl⟩⟩

theorem mapM_checkPair_eq_ok_iff {flags : List (Flag String)}
    {conflicts : List (Except Error (String × String))} {pairs : List (String × String)} :
    conflicts.mapM (checkPair flags) = .ok pairs ↔
      conflicts = pairs.map .ok ∧
        ∀ pair ∈ pairs, pair.1 ∈ flags.map (·.name) ∧ pair.2 ∈ flags.map (·.name) := by
  rw [mapM_eq_ok_iff]
  constructor
  · intro checked
    induction checked with
    | nil => simp
    | cons headChecked _ ih =>
      obtain ⟨read, declared⟩ := checkPair_eq_ok_iff.1 headChecked
      obtain ⟨restRead, restDeclared⟩ := ih
      exact ⟨by rw [read, restRead]; rfl, List.forall_mem_cons.2 ⟨declared, restDeclared⟩⟩
  · rintro ⟨rfl, declared⟩
    induction pairs with
    | nil => exact .nil
    | cons head rest ih =>
      obtain ⟨headDeclared, restDeclared⟩ := List.forall_mem_cons.1 declared
      exact .cons (checkPair_eq_ok_iff.2 ⟨rfl, headDeclared⟩) (ih restDeclared)

/-! ## Making a table a registry -/

/-- In a coherent table the search for a cycle passes exactly when there is none. -/
theorem checkAcyclic_eq_ok_iff {flags : List (Flag String)} {defaults : NameSet String}
    {conflicts : List (String × String)} (coherent : Coherent flags defaults conflicts) :
    checkAcyclic flags = .ok () ↔ Acyclic (Implies flags) := by
  rw [← edge_targets coherent.distinct, ← CycleSearch.walk_ok_iff (confined_targets coherent),
    checkAcyclic]
  split
  · next final passed => exact ⟨fun _ => ⟨final, passed⟩, fun _ => rfl⟩
  · next cycle failed =>
    constructor
    · nofun
    · rintro ⟨final, passed⟩
      rw [failed] at passed
      cases passed

/-- In a coherent table a search that fails reports a simple cycle of implications. -/
theorem checkAcyclic_eq_error {flags : List (Flag String)} {defaults : NameSet String}
    {conflicts : List (String × String)} (coherent : Coherent flags defaults conflicts)
    {error : Error} (failed : checkAcyclic flags = .error error) :
    ∃ cycle, error = .implicationCycle cycle ∧ SimpleCycle (Implies flags) cycle := by
  unfold checkAcyclic at failed
  split at failed
  · cases failed
  · next cycle found =>
    cases failed
    refine ⟨cycle, by simp [cycleError], ?_⟩
    rw [← edge_targets coherent.distinct]
    exact CycleSearch.walk_error_simpleCycle (confined_targets coherent) found

/-- A table is coherent exactly when the checks before the search pass. -/
theorem coherent_iff_checks {flags : List (Flag String)} {defaults : NameSet String}
    {conflicts : List (String × String)} :
    Coherent flags defaults conflicts ↔
      checkNames [] flags = .ok () ∧ checkDeclared flags defaults.toList = .ok () ∧
        checkTargets flags = .ok () ∧
          (conflicts.map Except.ok).mapM (checkPair flags) = .ok conflicts := by
  rw [checkNames_eq_ok_iff, checkDeclared_eq_ok_iff, checkTargets_eq_ok_iff,
    mapM_checkPair_eq_ok_iff]
  simp only [NameSet.mem_toList]
  constructor
  · rintro ⟨unreserved, distinct, defaultsDeclared, targetsDeclared, membersDeclared⟩
    exact ⟨⟨unreserved, distinct, by simp⟩, defaultsDeclared, targetsDeclared, trivial,
      membersDeclared⟩
  · rintro ⟨⟨unreserved, distinct, _⟩, defaultsDeclared, targetsDeclared, _, membersDeclared⟩
    exact ⟨unreserved, distinct, defaultsDeclared, targetsDeclared, membersDeclared⟩

instance (flags : List (Flag String)) (defaults : NameSet String)
    (conflicts : List (String × String)) : Decidable (Coherent flags defaults conflicts) :=
  -- Named, because an imported instance for results may come first.
  letI : DecidableEq (Except Error Unit) := decideEqResult
  letI : DecidableEq (Except Error (List (String × String))) := decideEqResult
  decidable_of_iff _ coherent_iff_checks.symm

/-- What the checks make of a coherent table depends on the search for a cycle alone. -/
theorem assemble_of_coherent {flags : List (Flag String)} {defaults : NameSet String}
    {conflicts : List (String × String)} (coherent : Coherent flags defaults conflicts)
    (artifact : Option (Artifact String)) :
    assemble flags (.ok defaults) (.ok (conflicts.map .ok)) artifact =
      (checkAcyclic flags).map fun _ => ⟨markDefaults defaults flags, conflicts, artifact⟩ := by
  obtain ⟨names, listed, _⟩ := coherent_iff_checks.1 coherent
  obtain ⟨_, _, targets, pairs⟩ :=
    coherent_iff_checks.1 (coherent_markDefaults coherent defaults)
  simp only [assemble, ok_bind, names, NameSet.sorted_text, listed, targets, pairs,
    checkAcyclic_markDefaults]
  cases checkAcyclic flags <;> rfl

theorem assemble_eq_ok_iff {flags : List (Flag String)}
    {defaults : Except Error (NameSet String)}
    {conflicts : Except Error (List (Except Error (String × String)))}
    {artifact : Option (Artifact String)} {registry : Registry String} :
    assemble flags defaults conflicts artifact = .ok registry ↔
      ∃ named pairs, defaults = .ok named ∧ conflicts = .ok (pairs.map .ok) ∧
        Coherent flags named pairs ∧ Acyclic (Implies flags) ∧
          registry = ⟨markDefaults named flags, pairs, artifact⟩ := by
  constructor
  · intro made
    obtain ⟨_, names, made⟩ := bind_eq_ok_iff.1 made
    obtain ⟨named, namedIs, made⟩ := bind_eq_ok_iff.1 made
    obtain ⟨sorted, sortedIs, made⟩ := bind_eq_ok_iff.1 made
    obtain ⟨_, listed, made⟩ := bind_eq_ok_iff.1 made
    obtain ⟨_, targets, made⟩ := bind_eq_ok_iff.1 made
    obtain ⟨read, readIs, made⟩ := bind_eq_ok_iff.1 made
    obtain ⟨pairs, checked, made⟩ := bind_eq_ok_iff.1 made
    obtain ⟨_, acyclic, ⟨⟩⟩ := bind_eq_ok_iff.1 made
    rw [NameSet.sorted_text] at sortedIs
    cases sortedIs
    -- From here on the checks saw the marked table, which has the same names and implications.
    obtain ⟨rfl, membersDeclared⟩ := mapM_checkPair_eq_ok_iff.1 checked
    rw [checkTargets_eq_ok_iff, implies_markDefaults, map_name_markDefaults,
      ← checkTargets_eq_ok_iff] at targets
    rw [map_name_markDefaults] at membersDeclared
    rw [checkAcyclic_markDefaults] at acyclic
    have coherent : Coherent flags named pairs :=
      coherent_iff_checks.2 ⟨names, listed, targets,
        mapM_checkPair_eq_ok_iff.2 ⟨rfl, membersDeclared⟩⟩
    have noCycle := (checkAcyclic_eq_ok_iff coherent).1 acyclic
    exact ⟨named, pairs, namedIs, readIs, coherent, noCycle, rfl⟩
  · rintro ⟨named, pairs, rfl, rfl, coherent, acyclic, rfl⟩
    rw [assemble_of_coherent coherent, (checkAcyclic_eq_ok_iff coherent).2 acyclic]
    rfl

theorem build_eq_ok_iff {flags : List (Flag String)} {defaults : List String}
    {conflicts : List (String × String)} {artifact : Option (Artifact String)}
    {registry : Registry String} : build flags defaults conflicts artifact = .ok registry ↔
      Coherent flags (.ofList defaults) conflicts ∧ Acyclic (Implies flags) ∧
        registry = ⟨markDefaults (.ofList defaults) flags, conflicts, artifact⟩ := by
  rw [build, assemble_eq_ok_iff]
  constructor
  · rintro ⟨named, pairs, ⟨⟩, listed, made⟩
    cases List.map_injective_iff.2 (fun _ _ => Except.ok.inj) (Except.ok.inj listed)
    exact made
  · exact fun made => ⟨.ofList defaults, conflicts, rfl, rfl, made⟩

theorem names_of_build {flags : List (Flag String)} {defaults : List String}
    {conflicts : List (String × String)} {artifact : Option (Artifact String)}
    {registry : Registry String}
    (built : build flags defaults conflicts artifact = .ok registry) :
    registry.names = flags.map (·.name) := by
  obtain ⟨_, _, rfl⟩ := build_eq_ok_iff.1 built
  exact map_name_markDefaults (.ofList defaults) flags

/-! ## Registries that have been made -/

/-- Some table has been made this registry. -/
def Constructed (registry : Registry String) : Prop :=
  ∃ flags defaults conflicts artifact, assemble flags defaults conflicts artifact = .ok registry

/-- A registry is coherent as it stands, and its implications form no cycle. -/
structure WellFormed (registry : Registry String) : Prop where
  coherent : Coherent registry.flags registry.defaultSet registry.conflicts
  acyclic : Acyclic (Implies registry.flags)

theorem mem_defaultSet {registry : Registry String} {name : String} :
    name ∈ registry.defaultSet ↔
      ∃ flag ∈ registry.flags, flag.name = name ∧ flag.isDefault = true := by
  rw [defaultSet, NameSet.mem_ofList, List.mem_map]
  simp only [List.mem_filter]
  exact exists_congr fun flag => by tauto

theorem mem_names_of_mem_defaultSet {registry : Registry String} {name : String}
    (present : name ∈ registry.defaultSet) : name ∈ registry.names := by
  obtain ⟨flag, inTable, rfl, _⟩ := mem_defaultSet.1 present
  exact List.mem_map_of_mem inTable

theorem Constructed.wellFormed {registry : Registry String} (constructed : registry.Constructed) :
    registry.WellFormed := by
  obtain ⟨flags, defaults, conflicts, artifact, made⟩ := constructed
  obtain ⟨named, pairs, _, _, coherent, acyclic, rfl⟩ := assemble_eq_ok_iff.1 made
  have marked := coherent_markDefaults coherent named
  refine ⟨{ marked with defaultsDeclared := fun _ => mem_names_of_mem_defaultSet }, ?_⟩
  rw [implies_markDefaults]
  exact acyclic

/-- In a table without repeated names a flag is told by its name. -/
theorem eq_of_name_eq {flags : List (Flag String)} (distinct : (flags.map (·.name)).Nodup)
    {first second : Flag String} (firstPresent : first ∈ flags) (secondPresent : second ∈ flags)
    (sameName : first.name = second.name) : first = second := by
  have found := Flag.find?_of_mem distinct firstPresent
  rw [sameName, Flag.find?_of_mem distinct secondPresent] at found
  exact (Option.some.inj found).symm

/-- Marking the flags of a default set once more changes nothing. -/
theorem markDefaults_defaultSet {registry : Registry String}
    (distinct : registry.names.Nodup) :
    markDefaults registry.defaultSet registry.flags = registry.flags := by
  refine (List.map_congr_left fun flag present => ?_).trans (List.map_id registry.flags)
  split
  · next listed =>
    obtain ⟨marked, inTable, named, isDefault⟩ := mem_defaultSet.1 listed
    cases eq_of_name_eq distinct inTable present named
    rw [← isDefault]
    rfl
  · rfl

/-- A well-formed registry is what its own flags, default set and conflict pairs are made into. -/
theorem WellFormed.assemble_self {registry : Registry String} (wellFormed : registry.WellFormed) :
    assemble registry.flags (.ok registry.defaultSet) (.ok (registry.conflicts.map .ok))
      registry.artifact = .ok registry :=
  assemble_eq_ok_iff.2 ⟨registry.defaultSet, registry.conflicts, rfl, rfl, wellFormed.coherent,
    wellFormed.acyclic, by rw [markDefaults_defaultSet wellFormed.coherent.distinct]⟩

theorem wellFormed_iff_constructed {registry : Registry String} :
    registry.WellFormed ↔ registry.Constructed :=
  ⟨fun wellFormed => ⟨_, _, _, _, wellFormed.assemble_self⟩, Constructed.wellFormed⟩

/-- A small registry: two features lead to the default one, one of them over a dependency that is
pinned, and one feature excludes the default one. -/
def smallRegistry : Registry String where
  flags :=
    [{ name := "derive", implies := .ofList ["macros"], provides := .ofList ["Derive"] },
     { name := "macros", implies := .ofList ["std"], kind := .dependency,
       contract := some ⟨"macros", "1.0.139", .exact⟩,
       devContract := some ⟨"macros", "1.0", .compatible⟩ },
     { name := "rc", implies := .ofList ["std"] },
     { name := "std", isDefault := true, provides := .ofList ["Vec", "String"] },
     { name := "tiny" }]
  conflicts := [("tiny", "std")]
  artifact := none

theorem constructed_smallRegistry : smallRegistry.Constructed :=
  ⟨smallRegistry.flags, .ok ∅, .ok [.ok ("tiny", "std")], none, by decide⟩

end Registry

end FeatureResolution
