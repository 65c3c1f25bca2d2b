import FeatureResolution.Proofs.Closure

/-!
# What a registry keeps of its table

A registry has the names of the table it was made from, in their order, and under each name the flag
of that name. One thing is added: a flag is a default there when the table marks it as one, on the
flag itself or in the default list (`Marks`). Since only the two together count, tables that mark
the same flags in different ways are made into the same registry (`build_of_marks`).
-/

namespace FeatureResolution

/-- A flag without the mark of a default. -/
def Flag.unmarked (flag : Flag String) : Flag String :=
  { flag with isDefault := false }

/-- A table marks a flag as a default, on the flag itself or in its default list. -/
def Marks (flags : List (Flag String)) (defaults : List String) (name : String) : Prop :=
  (∃ flag ∈ flags, flag.name = name ∧ flag.isDefault = true) ∨ name ∈ defaults

instance (flags : List (Flag String)) (defaults : List String) (name : String) :
    Decidable (Marks flags defaults name) :=
  inferInstanceAs (Decidable (_ ∨ _))

/-- In a table without repeated names the mark of a flag is its own or that of the default list. -/
theorem marks_iff_of_mem {flags : List (Flag String)} (distinct : (flags.map (·.name)).Nodup)
    (defaults : List String) {flag : Flag String} (present : flag ∈ flags) :
    Marks flags defaults flag.name ↔ flag.isDefault = true ∨ flag.name ∈ defaults := by
  refine or_congr_left ⟨?_, fun isDefault => ⟨flag, present, rfl, isDefault⟩⟩
  rintro ⟨other, otherPresent, named, isDefault⟩
  cases Registry.eq_of_name_eq distinct otherPresent present named
  exact isDefault

namespace Registry

/-- How a registry stands to the table of flags, default names and conflict pairs that it was made
from. -/
structure Represents (registry : Registry String) (flags : List (Flag String))
    (defaults : List String) (conflicts : List (String × String)) : Prop where
  names : registry.names = flags.map (·.name)
  distinct : registry.names.Nodup
  unreserved : defaultSetName ∉ registry.names
  size : registry.size = registry.names.length
  listed : registry.names.mapM registry.get = .ok registry.flags
  contains : ∀ name, registry.contains name = true ↔ name ∈ registry.names
  found : ∀ flag ∈ flags, registry.get flag.name =
    .ok { flag with isDefault := decide (flag.isDefault = true ∨ flag.name ∈ defaults) }
  refused : ∀ name, registry.get name = .error (.unknownFlag (.text name)) ↔
    name ∉ registry.names
  defaultSet : ∀ name, name ∈ registry.defaultSet ↔
    ∃ flag, registry.get name = .ok flag ∧ flag.isDefault = true
  defaultsDeclared : ∀ name ∈ registry.defaultSet, name ∈ registry.names
  targetsDeclared : ∀ name flag, registry.get name = .ok flag →
    ∀ target ∈ flag.implies, target ∈ registry.names
  membersDeclared : ∀ pair ∈ registry.conflicts,
    pair.1 ∈ registry.names ∧ pair.2 ∈ registry.names
  conflicts : registry.conflicts = conflicts

/-! ## Marked tables -/

/-- What marking makes of a flag of the table. -/
theorem mem_markDefaults {flags : List (Flag String)} {defaults : List String}
    {flag : Flag String} (present : flag ∈ flags) :
    { flag with isDefault := decide (flag.isDefault = true ∨ flag.name ∈ defaults) } ∈
      markDefaults (.ofList defaults) flags := by
  refine List.mem_map.2 ⟨flag, present, ?_⟩
  by_cases named : flag.name ∈ defaults <;> simp [named]

/-- Marking the flags of the default list leaves of each flag what it is apart from its mark, and
marks it when the table does. -/
theorem markDefaults_eq_map {flags : List (Flag String)} (distinct : (flags.map (·.name)).Nodup)
    (defaults : List String) : markDefaults (.ofList defaults) flags =
      (flags.map Flag.unmarked).map fun flag =>
        { flag with isDefault := decide (Marks flags defaults flag.name) } := by
  rw [markDefaults, List.map_map]
  refine List.map_congr_left fun flag present => ?_
  simp only [Function.comp_apply, Flag.unmarked, marks_iff_of_mem distinct defaults present]
  by_cases named : flag.name ∈ defaults <;> simp [named]

/-- Two tables whose flags differ in their marks alone have the same names and implications. -/
theorem map_of_unmarked {β : Type} {view : Flag String → β} {flags others : List (Flag String)}
    (unmarked : ∀ flag : Flag String, view flag.unmarked = view flag)
    (same : others.map Flag.unmarked = flags.map Flag.unmarked) :
    others.map view = flags.map view := by
  have viewed (table : List (Flag String)) :
      (table.map Flag.unmarked).map view = table.map view := by
    rw [List.map_map]
    exact List.map_congr_left fun flag _ => unmarked flag
  rw [← viewed, same, viewed]

variable {flags : List (Flag String)} {defaults : List String}
  {conflicts : List (String × String)} {artifact : Option (Artifact String)}
  {registry : Registry String}

/-- Which way the defaults of a table are marked makes no difference to the registry. -/
theorem build_of_marks (built : build flags defaults conflicts artifact = .ok registry)
    {others : List (Flag String)} {listed : List String}
    (same : others.map Flag.unmarked = flags.map Flag.unmarked)
    (marks : ∀ name, Marks others listed name ↔ Marks flags defaults name) :
    build others listed conflicts artifact = .ok registry := by
  obtain ⟨coherent, acyclic, rfl⟩ := build_eq_ok_iff.1 built
  have names : others.map (·.name) = flags.map (·.name) := map_of_unmarked (fun _ => rfl) same
  have edges : others.map (fun flag => (flag.name, flag.implies)) =
      flags.map fun flag => (flag.name, flag.implies) := map_of_unmarked (fun _ => rfl) same
  have implies : Implies others = Implies flags := by
    funext source target
    rw [eq_iff_iff, implies_iff_mem_map, implies_iff_mem_map, edges]
  have othersCoherent := coherent.congr names implies
  refine build_eq_ok_iff.2 ⟨{ othersCoherent with defaultsDeclared := ?_ }, implies ▸ acyclic, ?_⟩
  · -- A name in the other default list is marked in the first table, by a flag or by its list.
    intro name present
    rw [names]
    rcases (marks name).1 (.inr (NameSet.mem_ofList.1 present)) with ⟨flag, inTable, rfl, _⟩ | named
    · exact List.mem_map_of_mem inTable
    · exact coherent.defaultsDeclared name (NameSet.mem_ofList.2 named)
  · rw [markDefaults_eq_map othersCoherent.distinct, markDefaults_eq_map coherent.distinct, same]
    simp only [marks]

theorem represents_of_build (built : build flags defaults conflicts artifact = .ok registry) :
    registry.Represents flags defaults conflicts := by
  have wellFormed : registry.WellFormed := Constructed.wellFormed ⟨_, _, _, _, built⟩
  have distinct := wellFormed.coherent.distinct
  have names := names_of_build built
  obtain ⟨_, _, rfl⟩ := build_eq_ok_iff.1 built
  refine {
    names, distinct
    unreserved := wellFormed.coherent.unreserved
    size := (List.length_map _).symm
    listed := ?_
    contains := fun _ => contains_iff
    found := fun flag present => get_of_mem distinct (mem_markDefaults present)
    refused := fun name => ⟨fun refused declared => ?_, get_of_not_mem⟩
    defaultSet := fun name => ?_
    defaultsDeclared := wellFormed.coherent.defaultsDeclared
    targetsDeclared := fun name flag found target implied => ?_
    membersDeclared := wellFormed.coherent.membersDeclared
    conflicts := rfl }
  · rw [mapM_eq_ok_iff_map, Registry.names, List.map_map]
    exact List.map_congr_left fun flag present => get_of_mem distinct present
  · obtain ⟨flag, inTable, rfl⟩ := List.mem_map.1 declared
    rw [get_of_mem distinct inTable] at refused
    cases refused
  · rw [mem_defaultSet]
    simp only [get_eq_ok_iff distinct, and_assoc]
  · obtain ⟨inTable, named⟩ := (get_eq_ok_iff distinct).1 found
    exact wellFormed.coherent.targetsDeclared name target ⟨flag, inTable, named, implied⟩

/-! ## Result -/

/-- A registry represents the table that it was made from: it has exactly the names of the table, in
their order, finds under each of them the flag of the table and nothing under any other, counts as
defaults the flags that the table marks, and keeps the conflict pairs as they were; every name that
it mentions is declared. Any other table that marks the same flags is made into the same registry,
whether it marks them on the flags or in the default list. -/
theorem build_represents (flags : List (Flag String)) (defaults : List String)
    (conflicts : List (String × String)) (artifact : Option (Artifact String))
    (registry : Registry String)
    (built : build flags defaults conflicts artifact = .ok registry) :
    registry.Represents flags defaults conflicts ∧
      ∀ (others : List (Flag String)) (listed : List String),
        others.map Flag.unmarked = flags.map Flag.unmarked →
        (∀ name, Marks others listed name ↔ Marks flags defaults name) →
        build others listed conflicts artifact = .ok registry :=
  ⟨represents_of_build built, fun _ _ same marks => build_of_marks built same marks⟩

/-- The flags of the small registry, with one more of them marked on the flag itself. -/
def markedFlags : List (Flag String) :=
  smallRegistry.flags.map fun flag => { flag with isDefault := flag.isDefault || flag.name == "rc" }

theorem build_represents_smallRegistry :
    ∃ registry, build smallRegistry.flags ["rc", "std", "rc"] smallRegistry.conflicts none =
        .ok registry ∧
      registry.Represents smallRegistry.flags ["rc", "std", "rc"] smallRegistry.conflicts ∧
      build markedFlags [] smallRegistry.conflicts none = .ok registry := by
  obtain ⟨represents, others⟩ := build_represents smallRegistry.flags ["rc", "std", "rc"]
    smallRegistry.conflicts none _ rfl
  refine ⟨_, rfl, represents, others markedFlags [] rfl fun name => ?_⟩
  simp [Marks, markedFlags, smallRegistry]
  grind

end Registry

end FeatureResolution
