import FeatureResolution.Closure
import FeatureResolution.Proofs.WellFormed
import Mathlib.Order.Bounds.Basic

/-!
# The closure of a request is everything its flags lead to

A request starts from the flags it names and, where it asks for it, from the default set (`Starts`);
it enables what these lead to by zero or more implications (`Enables`).

Between two rounds the enabled flags are all led to, and whatever an enabled flag implies is enabled
too unless the flag was enabled last (`Spreading`). A round keeps this (`Spreading.round`) and
either enables a flag more or leaves nothing new behind, so there are at most as many rounds as
flags and one more (`rounds_eq_ok`). Of a well-formed registry no look-up in a round fails.

Result: a request without unknown names is resolved to the least set of flags that contains those
it starts from and is closed under implication, and any other is refused.
-/

namespace FeatureResolution.Registry

open Relation

variable {registry : Registry String}

/-- Some flag for which `start` holds leads to the given one by zero or more implications. -/
def Reached (registry : Registry String) (start : String → Prop) (name : String) : Prop :=
  ∃ source, start source ∧ ReflTransGen (Implies registry.flags) source name

/-- The flags that a request starts from. -/
def Starts (registry : Registry String) (requested : NameSet String) (defaultFeatures : Bool)
    (name : String) : Prop :=
  (name ∈ requested ∧ name ≠ defaultSetName) ∨
    ((defaultFeatures = true ∨ defaultSetName ∈ requested) ∧ name ∈ registry.defaultSet)

/-- The flags that a request enables. -/
def Enables (registry : Registry String) (requested : NameSet String) (defaultFeatures : Bool) :
    String → Prop :=
  registry.Reached (registry.Starts requested defaultFeatures)

/-- A name that no request may contain. -/
def Unknown (registry : Registry String) (name : String) : Prop :=
  name ≠ defaultSetName ∧ name ∉ registry.names

instance (registry : Registry String) (name : String) : Decidable (registry.Unknown name) :=
  inferInstanceAs (Decidable (_ ∧ _))

/-! ## Looking flags up -/

theorem get_of_mem (distinct : registry.names.Nodup) {flag : Flag String}
    (present : flag ∈ registry.flags) : registry.get flag.name = .ok flag := by
  rw [get, Label.isKey_text, if_pos rfl, Flag.find?_of_mem distinct present]

theorem get_of_not_mem {name : String} (undeclared : name ∉ registry.names) :
    registry.get name = .error (.unknownFlag (.text name)) := by
  have notFound : Flag.find? name registry.flags = none := by
    rw [← Option.not_isSome_iff_eq_none]
    exact fun found => undeclared (Flag.isDeclared_iff.1 found)
  rw [get, Label.isKey_text, if_pos rfl, notFound]
  rfl

/-- A flag is found under its own name and under no other. -/
theorem get_eq_ok_iff (distinct : registry.names.Nodup) {name : String} {flag : Flag String} :
    registry.get name = .ok flag ↔ flag ∈ registry.flags ∧ flag.name = name := by
  constructor
  · intro lookedUp
    unfold get at lookedUp
    rw [Label.isKey_text, if_pos rfl] at lookedUp
    split at lookedUp
    · next found =>
      cases lookedUp
      exact Flag.mem_of_find? found
    · cases lookedUp
  · rintro ⟨present, rfl⟩
    exact get_of_mem distinct present

theorem impliedBy_of_mem (wellFormed : registry.WellFormed) {name : String}
    (declared : name ∈ registry.names) :
    ∃ implied, registry.impliedBy name = .ok implied ∧
      ∀ target, target ∈ implied ↔ Implies registry.flags name target := by
  obtain ⟨flag, present, rfl⟩ := List.mem_map.1 declared
  have distinct := wellFormed.coherent.distinct
  refine ⟨flag.implies, by rw [impliedBy, get_of_mem distinct present]; rfl, fun target => ?_⟩
  constructor
  · exact fun implied => ⟨flag, present, rfl, implied⟩
  · rintro ⟨other, otherPresent, named, implied⟩
    cases eq_of_name_eq distinct otherPresent present named
    exact implied

theorem exists_impliedBy_iff (wellFormed : registry.WellFormed) {name target : String}
    (declared : name ∈ registry.names) :
    (∃ implied, registry.impliedBy name = .ok implied ∧ target ∈ implied) ↔
      Implies registry.flags name target := by
  obtain ⟨found, lookedUp, targets⟩ := impliedBy_of_mem wellFormed declared
  rw [lookedUp, ← targets]
  simp

theorem Reached.declared (wellFormed : registry.WellFormed) {start : String → Prop}
    (startsDeclared : ∀ name, start name → name ∈ registry.names) {name : String}
    (reached : registry.Reached start name) : name ∈ registry.names := by
  obtain ⟨source, started, path⟩ := reached
  induction path with
  | refl => exact startsDeclared source started
  | tail _ step _ => exact wellFormed.coherent.targetsDeclared _ _ step

/-! ## Rounds -/

/-- How the state between two rounds hangs together. -/
structure Spreading (registry : Registry String) (start : String → Prop)
    (state : ClosureState String) : Prop where
  started : ∀ name, start name → name ∈ state.working
  reached : ∀ name ∈ state.working, registry.Reached start name
  layered : state.frontier ⊆ state.working
  expanded : ∀ name ∈ state.working, name ∉ state.frontier →
    ∀ target, Implies registry.flags name target → target ∈ state.working

/-- What a round makes of a state. -/
structure Grows (registry : Registry String) (state next : ClosureState String) : Prop where
  frontier : ∀ name, name ∈ next.frontier ↔ name ∉ state.working ∧
    ∃ source ∈ state.frontier, Implies registry.flags source name
  working : ∀ name, name ∈ next.working ↔ name ∈ state.working ∨ name ∈ next.frontier

theorem impliedByAny_eq_ok (wellFormed : registry.WellFormed) {names : List String}
    (declared : ∀ name ∈ names, name ∈ registry.names) :
    ∃ implied, registry.impliedByAny names = .ok implied ∧
      ∀ target, target ∈ implied ↔ ∃ name ∈ names, Implies registry.flags name target := by
  obtain ⟨implied, collected, members⟩ := collect_eq_ok registry.impliedBy id fun name present =>
    (impliedBy_of_mem wellFormed (declared name present)).imp fun _ found => found.1
  refine ⟨implied, collected, fun target => (members target).trans ?_⟩
  refine exists_congr fun name => and_congr_right fun present => ?_
  exact exists_impliedBy_iff wellFormed (declared name present)

theorem round_eq_ok (wellFormed : registry.WellFormed) {state : ClosureState String}
    (declared : ∀ name ∈ state.frontier, name ∈ registry.names) :
    ∃ next, registry.round state = .ok next ∧ registry.Grows state next := by
  obtain ⟨implied, lookedUp, members⟩ := impliedByAny_eq_ok wellFormed
    fun name present => declared name (NameSet.mem_toList.1 present)
  simp only [NameSet.mem_toList] at members
  refine ⟨⟨state.working ∪ (implied \ state.working), implied \ state.working⟩, ?_, ?_, ?_⟩
  · rw [round, lookedUp]
    rfl
  · exact fun name => by rw [NameSet.mem_diff, members, and_comm]
  · exact fun name => NameSet.mem_union

/-- A round keeps the state together. -/
theorem Spreading.round {start : String → Prop} {state next : ClosureState String}
    (spreading : registry.Spreading start state) (grows : registry.Grows state next) :
    registry.Spreading start next where
  started name isStart := (grows.working name).2 (.inl (spreading.started name isStart))
  reached name enabled := by
    rcases (grows.working name).1 enabled with before | new
    · exact spreading.reached name before
    · obtain ⟨_, source, inLayer, step⟩ := (grows.frontier name).1 new
      obtain ⟨origin, isStart, path⟩ := spreading.reached source (spreading.layered source inLayer)
      exact ⟨origin, isStart, path.tail step⟩
  layered name new := (grows.working name).2 (.inr new)
  expanded name enabled old target step := by
    have before := ((grows.working name).1 enabled).resolve_right old
    rw [grows.working, grows.frontier]
    by_cases known : target ∈ state.working
    · exact .inl known
    · refine .inr ⟨known, name, ?_, step⟩
      by_contra notLast
      exact known (spreading.expanded name before notLast target step)

/-- When nothing is new any more, exactly what the start leads to is enabled. -/
theorem Spreading.exact {start : String → Prop} {state : ClosureState String}
    (spreading : registry.Spreading start state) (settled : state.frontier = ∅) (name : String) :
    name ∈ state.working ↔ registry.Reached start name := by
  refine ⟨spreading.reached name, ?_⟩
  rintro ⟨source, isStart, path⟩
  induction path with
  | refl => exact spreading.started source isStart
  | tail _ step ih =>
    exact spreading.expanded _ ih (settled ▸ NameSet.not_mem_empty _) _ step

/-! ## The number of rounds -/

/-- Rounds without a bound: from the first state they come to the second, in which nothing is new,
and no look-up on the way fails. -/
inductive Saturates (registry : Registry String) :
    ClosureState String → ClosureState String → Prop
  | rest {state : ClosureState String} : state.frontier = ∅ → Saturates registry state state
  | next {state next final : ClosureState String} : state.frontier ≠ ∅ →
      registry.round state = .ok next → Saturates registry next final →
      Saturates registry state final

/-- The flags that are not enabled yet. -/
def disabled (registry : Registry String) (state : ClosureState String) : List String :=
  registry.names.filter (· ∉ state.working)

/-- A round that finds something new leaves fewer flags to enable. -/
theorem Grows.disabled_lt {state next : ClosureState String} (grows : registry.Grows state next)
    (declared : ∀ name ∈ next.frontier, name ∈ registry.names) (new : next.frontier ≠ ∅) :
    (registry.disabled next).length < (registry.disabled state).length := by
  have fewer : registry.disabled next =
      (registry.disabled state).filter (· ∉ next.frontier) := by
    rw [disabled, disabled, List.filter_filter]
    refine List.filter_congr fun name _ => ?_
    simp [grows.working, Bool.and_comm]
  obtain ⟨name, present⟩ := NameSet.exists_mem_of_ne_empty new
  rw [fewer, List.length_filter_lt_length_iff_exists]
  have fresh := ((grows.frontier name).1 present).1
  have inDisabled : name ∈ registry.disabled state :=
    List.mem_filter.2 ⟨declared name present, by simpa using fresh⟩
  exact ⟨name, inDisabled, by simpa using present⟩

/-- With more rounds than flags to enable, the bounded rounds are the rounds without a bound. -/
theorem rounds_eq_ok (wellFormed : registry.WellFormed) {start : String → Prop}
    (startsDeclared : ∀ name, start name → name ∈ registry.names) {fuel : Nat}
    {state : ClosureState String} (spreading : registry.Spreading start state)
    (enough : state.frontier = ∅ ∨ (registry.disabled state).length < fuel) :
    ∃ final, registry.rounds fuel state = .ok final ∧ registry.Saturates state final ∧
      registry.Spreading start final ∧ final.frontier = ∅ := by
  induction fuel generalizing state with
  | zero =>
    have settled := enough.resolve_right (Nat.not_lt_zero _)
    exact ⟨state, rfl, .rest settled, spreading, settled⟩
  | succ fuel ih =>
    unfold rounds
    by_cases settled : state.frontier = ∅
    · rw [if_pos (NameSet.isEmpty_iff.2 settled)]
      exact ⟨state, rfl, .rest settled, spreading, settled⟩
    · -- The round finds flags that were not enabled, or it was the last one.
      rw [if_neg fun isEmpty => settled (NameSet.isEmpty_iff.1 isEmpty)]
      have layerDeclared (name : String) (present : name ∈ state.frontier) :
          name ∈ registry.names :=
        (spreading.reached name (spreading.layered name present)).declared wellFormed startsDeclared
      obtain ⟨next, stepped, grows⟩ := round_eq_ok wellFormed layerDeclared
      have nextSpreading := spreading.round grows
      have nextEnough : next.frontier = ∅ ∨ (registry.disabled next).length < fuel := by
        refine or_iff_not_imp_left.2 fun new => ?_
        have fewer := grows.disabled_lt (fun name present =>
          (nextSpreading.reached name (nextSpreading.layered name present)).declared
            wellFormed startsDeclared) new
        have bounded := enough.resolve_left settled
        omega
      obtain ⟨final, bounded, saturates, finalSpreading, finalSettled⟩ :=
        ih nextSpreading nextEnough
      refine ⟨final, ?_, .next settled stepped saturates, finalSpreading, finalSettled⟩
      rw [stepped, ok_bind, bounded]

theorem closure_eq_ok (wellFormed : registry.WellFormed) {names : NameSet String}
    (declared : ∀ name ∈ names, name ∈ registry.names) :
    ∃ enabled, registry.closure names = .ok enabled ∧
      (∀ name, name ∈ enabled ↔ registry.Reached (· ∈ names) name) ∧
      registry.Saturates ⟨names, names⟩ ⟨enabled, ∅⟩ := by
  have spreading : registry.Spreading (· ∈ names) ⟨names, names⟩ := {
    started := fun _ isStart => isStart
    reached := fun name enabled => ⟨name, enabled, .refl⟩
    layered := fun _ present => present
    expanded := fun name enabled old => absurd enabled old }
  have enough : (registry.disabled ⟨names, names⟩).length < registry.size + 1 := by
    have bound := List.length_filter_le (· ∉ names) registry.names
    rw [Registry.names, List.length_map] at bound
    exact Nat.lt_succ_of_le bound
  obtain ⟨⟨enabled, frontier⟩, bounded, saturates, finalSpreading, settled⟩ :=
    rounds_eq_ok wellFormed declared spreading (.inr enough)
  cases settled
  exact ⟨enabled, by rw [closure, bounded]; rfl, finalSpreading.exact rfl, saturates⟩

/-! ## Requests -/

theorem defaultSetLabel_text : (defaultSetLabel : String) = defaultSetName :=
  rfl

theorem mem_initial {requested : NameSet String} {defaultFeatures : Bool} {name : String} :
    name ∈ registry.initial requested defaultFeatures ↔
      registry.Starts requested defaultFeatures name := by
  have wanted : (defaultFeatures || requested.has defaultSetName) = true ↔
      defaultFeatures = true ∨ defaultSetName ∈ requested := by
    rw [Bool.or_eq_true, NameSet.has_iff]
  rw [initial, defaultSetLabel_text, Starts, ← wanted]
  by_cases on : (defaultFeatures || requested.has defaultSetName) = true
  · rw [if_pos on, NameSet.mem_union, NameSet.mem_erase, and_iff_right on]
  · rw [if_neg on, NameSet.mem_erase, or_iff_left fun both => on both.1]

theorem contains_iff {name : String} : registry.contains name = true ↔ name ∈ registry.names :=
  Flag.isDeclared_iff

/-- A request is checked up to the first of its names that is unknown. -/
theorem checkRequested_text (names : List String) :
    registry.checkRequested names =
      match names.find? fun name => decide (registry.Unknown name) with
      | some name => .error (.unknownFlag (.text name))
      | none => .ok () := by
  induction names with
  | nil => rfl
  | cons head rest ih =>
    have known : (Label.same head defaultSetLabel || registry.contains head) = true ↔
        ¬ registry.Unknown head := by
      rw [Bool.or_eq_true, contains_iff, Label.same_text, decide_eq_true_eq, Unknown]
      tauto
    rw [checkRequested, List.find?_cons]
    by_cases unknown : registry.Unknown head
    · rw [if_neg fun passes => known.1 passes unknown, decide_eq_true unknown]
      rfl
    · rw [if_pos (known.2 unknown), decide_eq_false unknown, ih]

/-- A request is refused for the least of its unknown names. -/
theorem resolve_eq_error {requested : NameSet String} (defaultFeatures : Bool) {name : String}
    (present : name ∈ requested) (unknown : registry.Unknown name)
    (least : ∀ other ∈ requested, registry.Unknown other → name ≤ other) :
    registry.resolve requested defaultFeatures = .error (.unknownFlag (.text name)) := by
  have found : requested.toList.find? (fun name => decide (registry.Unknown name)) = some name :=
    NameSet.find?_toList_eq_some_iff.2 ⟨present, by simpa using unknown, by simpa using least⟩
  rw [resolve, NameSet.sorted_text, ok_bind, checkRequested_text, found]
  rfl

theorem Starts.declared {requested : NameSet String} {defaultFeatures : Bool}
    (known : ∀ name ∈ requested, ¬ registry.Unknown name) {name : String}
    (starts : registry.Starts requested defaultFeatures name) : name ∈ registry.names := by
  rcases starts with ⟨present, notReserved⟩ | ⟨_, inDefaultSet⟩
  · by_contra undeclared
    exact known name present ⟨notReserved, undeclared⟩
  · exact mem_names_of_mem_defaultSet inDefaultSet

/-- A request with unknown names has a least one. -/
theorem exists_least_unknown {requested : NameSet String}
    (unknown : ∃ name ∈ requested, registry.Unknown name) :
    ∃ name ∈ requested, registry.Unknown name ∧
      ∀ other ∈ requested, registry.Unknown other → name ≤ other := by
  obtain ⟨unknown, present, isUnknown⟩ := unknown
  have found : (requested.toList.find? fun name => decide (registry.Unknown name)).isSome :=
    List.find?_isSome.2 ⟨unknown, by simpa using present, by simpa using isUnknown⟩
  obtain ⟨name, first⟩ := Option.isSome_iff_exists.1 found
  obtain ⟨inSet, nameUnknown, least⟩ := NameSet.find?_toList_eq_some_iff.1 first
  simp only [decide_eq_true_eq] at nameUnknown least
  exact ⟨name, inSet, nameUnknown, least⟩

/-- A request without unknown names goes through to the closure of what it starts from. -/
theorem resolve_eq_closure {requested : NameSet String} (defaultFeatures : Bool)
    (known : ∀ name ∈ requested, ¬ registry.Unknown name) :
    registry.resolve requested defaultFeatures =
      registry.closure (registry.initial requested defaultFeatures) := by
  have noneFound : requested.toList.find? (fun name => decide (registry.Unknown name)) = none :=
    List.find?_eq_none.2 fun name present => by
      simpa using known name (NameSet.mem_toList.1 present)
  rw [resolve, NameSet.sorted_text, ok_bind, checkRequested_text, noneFound, ok_bind]

/-- A request without unknown names is resolved to the flags it enables. -/
theorem resolve_eq_ok (wellFormed : registry.WellFormed) {requested : NameSet String}
    (defaultFeatures : Bool) (known : ∀ name ∈ requested, ¬ registry.Unknown name) :
    ∃ capabilities, registry.resolve requested defaultFeatures = .ok capabilities ∧
      (∀ name, name ∈ capabilities ↔ registry.Enables requested defaultFeatures name) ∧
      registry.Saturates ⟨registry.initial requested defaultFeatures,
        registry.initial requested defaultFeatures⟩ ⟨capabilities, ∅⟩ := by
  have declared : ∀ name ∈ registry.initial requested defaultFeatures, name ∈ registry.names :=
    fun name started => (mem_initial.1 started).declared known
  obtain ⟨capabilities, closed, members, saturates⟩ := closure_eq_ok wellFormed declared
  refine ⟨capabilities, ?_, fun name => ?_, saturates⟩
  · rw [resolve_eq_closure defaultFeatures known, closed]
  · simp only [members, Enables, Reached, mem_initial]

/-- What a request is resolved to, if it is. -/
theorem resolve_eq_ok_iff (wellFormed : registry.WellFormed) {requested : NameSet String}
    {defaultFeatures : Bool} {capabilities : NameSet String} :
    registry.resolve requested defaultFeatures = .ok capabilities ↔
      (∀ name ∈ requested, ¬ registry.Unknown name) ∧
        ∀ name, name ∈ capabilities ↔ registry.Enables requested defaultFeatures name := by
  constructor
  · intro resolved
    have known : ∀ name ∈ requested, ¬ registry.Unknown name := by
      by_contra someUnknown
      push Not at someUnknown
      obtain ⟨name, present, unknown, least⟩ := exists_least_unknown someUnknown
      rw [resolve_eq_error defaultFeatures present unknown least] at resolved
      cases resolved
    obtain ⟨enabled, same, members, _⟩ := resolve_eq_ok wellFormed defaultFeatures known
    rw [same] at resolved
    cases resolved
    exact ⟨known, members⟩
  · rintro ⟨known, members⟩
    obtain ⟨enabled, resolved, enabledMembers, _⟩ := resolve_eq_ok wellFormed defaultFeatures known
    have same : enabled = capabilities :=
      NameSet.ext fun name => (enabledMembers name).trans (members name).symm
    rw [resolved, same]

/-- When and how a request is refused. -/
theorem resolve_eq_error_iff (wellFormed : registry.WellFormed) {requested : NameSet String}
    {defaultFeatures : Bool} {error : Error} :
    registry.resolve requested defaultFeatures = .error error ↔
      ∃ name ∈ requested, registry.Unknown name ∧
        (∀ other ∈ requested, registry.Unknown other → name ≤ other) ∧
        error = .unknownFlag (.text name) := by
  constructor
  · intro refused
    by_cases known : ∀ name ∈ requested, ¬ registry.Unknown name
    · obtain ⟨capabilities, resolved, _⟩ := resolve_eq_ok wellFormed defaultFeatures known
      cases resolved.symm.trans refused
    · push Not at known
      obtain ⟨name, present, unknown, least⟩ := exists_least_unknown known
      cases (resolve_eq_error defaultFeatures present unknown least).symm.trans refused
      exact ⟨name, present, unknown, least, rfl⟩
  · rintro ⟨name, present, unknown, least, rfl⟩
    exact resolve_eq_error defaultFeatures present unknown least

/-- What a request is resolved to is declared. -/
theorem resolve_declared (wellFormed : registry.WellFormed) {requested : NameSet String}
    {defaultFeatures : Bool} {capabilities : NameSet String}
    (resolved : registry.resolve requested defaultFeatures = .ok capabilities) :
    ∀ name ∈ capabilities, name ∈ registry.names := by
  obtain ⟨known, members⟩ := (resolve_eq_ok_iff wellFormed).1 resolved
  intro name enabled
  exact ((members name).1 enabled).declared wellFormed fun _ starts => starts.declared known

/-! ## Results -/

/-- What is closed under implication and contains what a walk starts from contains what it reaches,
and what it reaches is itself closed. -/
theorem isLeast_reached (start : String → Prop) :
    IsLeast {flags : Set String | (∀ name, start name → name ∈ flags) ∧
      ∀ source target, Implies registry.flags source target → source ∈ flags → target ∈ flags}
      {name | registry.Reached start name} := by
  constructor
  · refine ⟨fun name isStart => ⟨name, isStart, .refl⟩, fun source target step enabled => ?_⟩
    obtain ⟨origin, isStart, path⟩ := enabled
    exact ⟨origin, isStart, path.tail step⟩
  · rintro flags ⟨contains, closed⟩ name ⟨source, isStart, path⟩
    induction path with
    | refl => exact contains source isStart
    | tail _ step ih => exact closed _ _ step ih

theorem not_enables_defaultSetName (wellFormed : registry.WellFormed) {requested : NameSet String}
    {defaultFeatures : Bool} (known : ∀ name ∈ requested, ¬ registry.Unknown name) :
    ¬ registry.Enables requested defaultFeatures defaultSetName := fun enabled =>
  wellFormed.coherent.unreserved (enabled.declared wellFormed fun _ starts => starts.declared known)

/-- A request without unknown names is resolved to the least set of flags that contains those it
starts from and is closed under implication: these are the flags that it leads to. They are
declared, the name of the default set is not among them, and no look-up on the way fails. Any other
request is refused for the least of its unknown names. -/
theorem resolve_exact (registry : Registry String) (constructed : registry.Constructed)
    (requested : List String) (defaultFeatures : Bool) :
    ((∀ name ∈ requested, ¬ registry.Unknown name) →
      ∃ capabilities, registry.resolve (.ofList requested) defaultFeatures = .ok capabilities ∧
        (∀ name, name ∈ capabilities ↔
          registry.Enables (.ofList requested) defaultFeatures name) ∧
        IsLeast {flags : Set String |
          (∀ name, registry.Starts (.ofList requested) defaultFeatures name → name ∈ flags) ∧
          ∀ source target, Implies registry.flags source target → source ∈ flags → target ∈ flags}
          {name | name ∈ capabilities} ∧
        (∀ name ∈ capabilities, name ∈ registry.names) ∧ defaultSetName ∉ capabilities ∧
        registry.Saturates ⟨registry.initial (.ofList requested) defaultFeatures,
          registry.initial (.ofList requested) defaultFeatures⟩ ⟨capabilities, ∅⟩) ∧
    ((∃ name ∈ requested, registry.Unknown name) →
      ∃ name ∈ requested, registry.Unknown name ∧
        (∀ other ∈ requested, registry.Unknown other → name ≤ other) ∧
        registry.resolve (.ofList requested) defaultFeatures =
          .error (.unknownFlag (.text name))) := by
  have wellFormed := constructed.wellFormed
  constructor
  · intro known
    have setKnown : ∀ name ∈ NameSet.ofList requested, ¬ registry.Unknown name :=
      fun name present => known name (NameSet.mem_ofList.1 present)
    obtain ⟨capabilities, resolved, members, saturates⟩ :=
      resolve_eq_ok wellFormed defaultFeatures setKnown
    have declared := resolve_declared wellFormed resolved
    refine ⟨capabilities, resolved, members, ?_, declared, ?_, saturates⟩
    · simp only [members]
      exact isLeast_reached _
    · exact fun enabled => not_enables_defaultSetName wellFormed setKnown ((members _).1 enabled)
  · intro someUnknown
    have inSet : ∃ name ∈ NameSet.ofList requested, registry.Unknown name := by
      simpa using someUnknown
    obtain ⟨name, present, unknown, least⟩ := exists_least_unknown inSet
    have refused := resolve_eq_error defaultFeatures present unknown least
    simp only [NameSet.mem_ofList] at present least
    exact ⟨name, present, unknown, least, refused⟩

theorem resolve_exact_smallRegistry :
    smallRegistry.Constructed ∧
      (∃ capabilities,
        smallRegistry.resolve (.ofList ["derive", "default", "derive"]) false = .ok capabilities ∧
          ∀ name, name ∈ capabilities ↔
            smallRegistry.Enables (.ofList ["derive", "default", "derive"]) false name) ∧
      ∃ name ∈ ["zlib", "derive", "alloc"], smallRegistry.Unknown name ∧
        (∀ other ∈ ["zlib", "derive", "alloc"], smallRegistry.Unknown other → name ≤ other) ∧
        smallRegistry.resolve (.ofList ["zlib", "derive", "alloc"]) true =
          .error (.unknownFlag (.text name)) := by
  refine ⟨constructed_smallRegistry, ?_, ?_⟩
  · obtain ⟨capabilities, resolved, members, _⟩ :=
      (resolve_exact smallRegistry constructed_smallRegistry ["derive", "default", "derive"]
        false).1 (by decide)
    exact ⟨capabilities, resolved, members⟩
  · exact (resolve_exact smallRegistry constructed_smallRegistry ["zlib", "derive", "alloc"]
      true).2 ⟨"zlib", by decide, by decide⟩

end FeatureResolution.Registry
