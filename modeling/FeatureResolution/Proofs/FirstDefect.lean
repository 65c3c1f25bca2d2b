import FeatureResolution.Proofs.WellFormed

/-!
# Which defect of a table is reported

A table may have several defects at once, and one of them is reported (`FirstDefect`):

1. a flag with the reserved name or with the name of an earlier flag, the first such flag;
2. an undeclared name in the default list, the least one;
3. an undeclared target of an implication, the least one of the first flag that has one;
4. an undeclared member of a conflict pair, the first one met.

Each check is described by the error that it fails with (`checkNames_eq_error_iff` and the ones
after it). A table without these defects is coherent, and then only a cycle of implications is left
to be reported (`build_eq_cycle_iff`).

Result: which of these defects is reported, and that a table is accepted when it has none, whatever
order its names are listed in and however often.
-/

namespace FeatureResolution

open Relation

/-- Some flag has the name. -/
def Declared (flags : List (Flag String)) (name : String) : Prop :=
  name ∈ flags.map (·.name)

instance (flags : List (Flag String)) (name : String) : Decidable (Declared flags name) :=
  inferInstanceAs (Decidable (_ ∈ _))

/-- No flag has the reserved name or the name of another flag. -/
structure WellNamed (flags : List (Flag String)) : Prop where
  unreserved : defaultSetName ∉ flags.map (·.name)
  distinct : (flags.map (·.name)).Nodup

/-- The name of a flag cannot stand behind some names, which is reported so. -/
inductive Misnamed (earlier : List String) (flag : Flag String) : Error → Prop
  | reserved : flag.name = defaultSetName →
      Misnamed earlier flag (.badManifest "flags" "'default' is reserved for the default set")
  | repeated : flag.name ≠ defaultSetName → flag.name ∈ earlier →
      Misnamed earlier flag (.duplicateFlag (.text flag.name))

theorem Misnamed.unique {earlier : List String} {flag : Flag String} {first second : Error}
    (one : Misnamed earlier flag first) (two : Misnamed earlier flag second) : first = second := by
  cases one with
  | reserved reserved =>
    cases two with
    | reserved _ => rfl
    | repeated other _ => exact absurd reserved other
  | repeated other _ =>
    cases two with
    | reserved reserved => exact absurd reserved other
    | repeated _ _ => rfl

theorem Misnamed.mono {earlier more : List String} {flag : Flag String} (subset : earlier ⊆ more)
    {error : Error} (misnamed : Misnamed earlier flag error) : Misnamed more flag error := by
  cases misnamed with
  | reserved reserved => exact .reserved reserved
  | repeated other repeated => exact .repeated other (subset repeated)

/-- The least of some names that no flag has. -/
structure LeastUndeclared (flags : List (Flag String)) (names : NameSet String) (name : String) :
    Prop where
  present : name ∈ names
  undeclared : ¬ Declared flags name
  least : ∀ other ∈ names, ¬ Declared flags other → name ≤ other

/-- The names that conflict pairs mention, pair by pair. -/
def memberNames (conflicts : List (String × String)) : List String :=
  conflicts.flatMap fun pair => [pair.1, pair.2]

/-- The first defect of a table, a cycle apart, and how it is reported. -/
inductive FirstDefect (flags : List (Flag String)) (defaults : List String)
    (conflicts : List (String × String)) : Error → Prop
  | flagName {before after : List (Flag String)} {flag : Flag String} {error : Error} :
      flags = before ++ flag :: after → WellNamed before →
      Misnamed (before.map (·.name)) flag error → FirstDefect flags defaults conflicts error
  | defaultName {name : String} : WellNamed flags →
      LeastUndeclared flags (.ofList defaults) name →
      FirstDefect flags defaults conflicts (.unknownFlag (.text name))
  | target {before after : List (Flag String)} {flag : Flag String} {name : String} :
      WellNamed flags → (∀ name ∈ defaults, Declared flags name) →
      flags = before ++ flag :: after →
      (∀ earlier ∈ before, ∀ target ∈ earlier.implies, Declared flags target) →
      LeastUndeclared flags flag.implies name →
      FirstDefect flags defaults conflicts (.unknownFlag (.text name))
  | member {before after : List String} {name : String} :
      WellNamed flags → (∀ name ∈ defaults, Declared flags name) →
      (∀ flag ∈ flags, ∀ target ∈ flag.implies, Declared flags target) →
      memberNames conflicts = before ++ name :: after →
      (∀ earlier ∈ before, Declared flags earlier) → ¬ Declared flags name →
      FirstDefect flags defaults conflicts (.unknownFlag (.text name))

theorem mem_memberNames {conflicts : List (String × String)} {name : String} :
    name ∈ memberNames conflicts ↔ ∃ pair ∈ conflicts, name = pair.1 ∨ name = pair.2 := by
  simp [memberNames]

/-- A coherent table has none of these defects. -/
theorem FirstDefect.not_coherent {flags : List (Flag String)} {defaults : List String}
    {conflicts : List (String × String)} {error : Error}
    (defect : FirstDefect flags defaults conflicts error) :
    ¬ Coherent flags (.ofList defaults) conflicts := by
  intro coherent
  cases defect with
  | @flagName before after flag _ whole _ misnamed =>
    subst whole
    cases misnamed with
    | reserved reserved => exact coherent.unreserved (by simp [reserved])
    | repeated _ repeated =>
      have distinct := coherent.distinct
      rw [List.map_append, List.map_cons] at distinct
      exact List.disjoint_of_nodup_append distinct repeated List.mem_cons_self
  | defaultName _ least => exact least.undeclared (coherent.defaultsDeclared _ least.present)
  | @target before after flag name _ _ whole _ least =>
    refine least.undeclared (coherent.targetsDeclared flag.name name ?_)
    exact ⟨flag, by simp [whole], rfl, least.present⟩
  | @member before after name _ _ _ whole _ undeclared =>
    have present : name ∈ memberNames conflicts := by simp [whole]
    obtain ⟨pair, inTable, rfl | rfl⟩ := mem_memberNames.1 present
    · exact undeclared (coherent.membersDeclared pair inTable).1
    · exact undeclared (coherent.membersDeclared pair inTable).2

/-- A flag declared with a list of the names that it implies. -/
def Flag.implying (flag : Flag String) (targets : List String) : Flag String :=
  { flag with implies := .ofList targets }

/-- Flags declared with lists of the names that they imply. -/
def declaredWith (rows : List (Flag String × List String)) : List (Flag String) :=
  rows.map fun row => row.1.implying row.2

/-- Two declarations of one flag, with the same names listed as implied. -/
structure SameImplied (row other : Flag String × List String) : Prop where
  flag : row.1 = other.1
  names : ∀ name, name ∈ row.2 ↔ name ∈ other.2

namespace Registry

variable {flags : List (Flag String)} {defaults : List String}
  {conflicts : List (String × String)} {artifact : Option (Artifact String)} {error : Error}

/-! ## How each check fails -/

theorem wellNamed_iff_checkNames : WellNamed flags ↔ checkNames [] flags = .ok () := by
  rw [checkNames_eq_ok_iff]
  constructor
  · rintro ⟨unreserved, distinct⟩
    exact ⟨unreserved, distinct, fun _ _ => List.not_mem_nil⟩
  · rintro ⟨unreserved, distinct, _⟩
    exact ⟨unreserved, distinct⟩

/-- The check of names stops at a flag that is misnamed. -/
theorem checkNames_cons_of_misnamed {seen : List String} {flag : Flag String}
    (misnamed : Misnamed seen flag error) (rest : List (Flag String)) :
    checkNames seen (flag :: rest) = .error error := by
  unfold checkNames
  cases misnamed with
  | reserved reserved =>
    rw [if_pos (by simpa [Label.ofText] using reserved)]
    rfl
  | repeated other repeated =>
    rw [if_neg (by simpa [Label.ofText] using other), Label.isKey_text, if_neg (by simp),
      if_pos (by simpa using repeated)]
    rfl

/-- The check of names goes on behind a flag that is not. -/
theorem checkNames_cons_of_not_misnamed {seen : List String} {flag : Flag String}
    (fits : ∀ failure, ¬ Misnamed seen flag failure) (rest : List (Flag String)) :
    checkNames seen (flag :: rest) = checkNames (flag.name :: seen) rest := by
  have unreserved : flag.name ≠ defaultSetName := fun reserved => fits _ (.reserved reserved)
  have new : flag.name ∉ seen := fun repeated => fits _ (.repeated unreserved repeated)
  rw [checkNames, if_neg (by simpa [Label.ofText] using unreserved), Label.isKey_text,
    if_neg (by simp), if_neg (by simpa using new)]

/-- The names of flags are checked up to the first that cannot stand behind those before it. -/
theorem checkNames_eq_error_iff {seen : List String} :
    checkNames seen flags = .error error ↔
      ∃ before flag after, flags = before ++ flag :: after ∧ checkNames seen before = .ok () ∧
        Misnamed ((before.map (·.name)).reverse ++ seen) flag error := by
  induction flags generalizing seen with
  | nil => simp [checkNames]
  | cons head rest ih =>
    by_cases misnamed : ∃ failure, Misnamed seen head failure
    · obtain ⟨failure, misnamed⟩ := misnamed
      rw [checkNames_cons_of_misnamed misnamed]
      constructor
      · rintro ⟨⟩
        exact ⟨[], head, rest, rfl, rfl, misnamed⟩
      · rintro ⟨before, flag, after, whole, passed, found⟩
        cases before with
        | nil =>
          cases whole
          rw [misnamed.unique found]
        | cons first before =>
          cases whole
          rw [checkNames_cons_of_misnamed misnamed] at passed
          cases passed
    · have fits : ∀ failure, ¬ Misnamed seen head failure := not_exists.1 misnamed
      rw [checkNames_cons_of_not_misnamed fits, ih]
      constructor
      · rintro ⟨before, flag, after, rfl, passed, found⟩
        refine ⟨head :: before, flag, after, rfl, ?_, by simpa using found⟩
        rw [checkNames_cons_of_not_misnamed fits, passed]
      · rintro ⟨before, flag, after, whole, passed, found⟩
        cases before with
        | nil =>
          cases whole
          exact absurd found (fits error)
        | cons first before =>
          cases whole
          rw [checkNames_cons_of_not_misnamed fits] at passed
          exact ⟨before, flag, after, rfl, passed, by simpa using found⟩

theorem checkDeclared_eq_error_iff {names : List String} :
    checkDeclared flags names = .error error ↔
      ∃ name, (names.find? fun name => !Flag.isDeclared name flags) = some name ∧
        error = .unknownFlag (.text name) := by
  rw [checkDeclared_text]
  constructor
  · intro failed
    split at failed
    · next name found =>
      cases failed
      exact ⟨name, found, rfl⟩
    · cases failed
  · rintro ⟨name, found, rfl⟩
    rw [found]

theorem isDeclared_eq_false_iff {name : String} :
    (!Flag.isDeclared name flags) = true ↔ ¬ Declared flags name := by
  rw [Bool.not_eq_true', Bool.eq_false_iff, ne_eq, Flag.isDeclared_iff, Declared]

/-- Names in a row are checked up to the first that no flag has. -/
theorem checkDeclared_first_iff {names : List String} :
    checkDeclared flags names = .error error ↔
      ∃ before name after, names = before ++ name :: after ∧
        (∀ earlier ∈ before, Declared flags earlier) ∧ ¬ Declared flags name ∧
        error = .unknownFlag (.text name) := by
  rw [checkDeclared_eq_error_iff]
  simp only [List.find?_eq_some_iff_append, isDeclared_eq_false_iff]
  constructor
  · rintro ⟨name, ⟨undeclared, before, after, whole, earlier⟩, rfl⟩
    refine ⟨before, name, after, whole, fun other present => ?_, undeclared, rfl⟩
    exact Flag.isDeclared_iff.1 (by simpa only [Bool.not_not] using earlier other present)
  · rintro ⟨before, name, after, whole, earlier, undeclared, rfl⟩
    refine ⟨name, ⟨undeclared, before, after, whole, fun other present => ?_⟩, rfl⟩
    rw [Bool.not_not]
    exact Flag.isDeclared_iff.2 (earlier other present)

/-- A set of names is checked up to the least that no flag has. -/
theorem checkDeclared_least_iff {names : NameSet String} :
    checkDeclared flags names.toList = .error error ↔
      ∃ name, LeastUndeclared flags names name ∧ error = .unknownFlag (.text name) := by
  rw [checkDeclared_eq_error_iff]
  simp only [NameSet.find?_toList_eq_some_iff, isDeclared_eq_false_iff]
  constructor
  · rintro ⟨name, ⟨present, undeclared, least⟩, rfl⟩
    exact ⟨name, ⟨present, undeclared, least⟩, rfl⟩
  · rintro ⟨name, ⟨present, undeclared, least⟩, rfl⟩
    exact ⟨name, ⟨present, undeclared, least⟩, rfl⟩

/-- The implications of flags are checked up to the first flag with an undeclared target. -/
theorem checkTargets_eq_error_iff :
    checkTargets flags = .error error ↔
      ∃ before flag after, flags = before ++ flag :: after ∧
        (∀ earlier ∈ before, ∀ target ∈ earlier.implies, Declared flags target) ∧
        ∃ name, LeastUndeclared flags flag.implies name ∧
          error = .unknownFlag (.text name) := by
  rw [checkTargets, forM_eq_error_iff]
  simp only [NameSet.sorted_text, ok_bind, checkDeclared_eq_ok_iff, checkDeclared_least_iff,
    NameSet.mem_toList, Declared]

theorem checkDefaults_eq_ok_iff :
    checkDeclared flags (NameSet.ofList defaults).toList = .ok () ↔
      ∀ name ∈ defaults, Declared flags name := by
  rw [checkDeclared_eq_ok_iff]
  simp only [NameSet.mem_toList, NameSet.mem_ofList, Declared]

/-! ## The checks in their order -/

theorem checkDeclared_append {first second : List String} :
    checkDeclared flags (first ++ second) =
      checkDeclared flags first >>= fun _ => checkDeclared flags second := by
  induction first with
  | nil => rfl
  | cons head rest ih =>
    rw [List.cons_append, checkDeclared, checkDeclared, ih]
    split
    · rfl
    · split <;> rfl

/-- Conflict pairs are read as they are once all their members are declared. -/
theorem mapM_checkPair_eq :
    (conflicts.map Except.ok).mapM (checkPair flags) =
      (checkDeclared flags (memberNames conflicts)).map fun _ => conflicts := by
  induction conflicts with
  | nil => rfl
  | cons pair rest ih =>
    obtain ⟨first, second⟩ := pair
    have parts : memberNames ((first, second) :: rest) = [first, second] ++ memberNames rest := rfl
    rw [List.map_cons, List.mapM_cons, ih, parts, checkDeclared_append, checkPair, ok_bind]
    dsimp only
    cases checkDeclared flags [first, second] with
    | error error => rfl
    | ok _ => cases checkDeclared flags (memberNames rest) <;> rfl

/-- Marking flags makes no difference to whether names are declared. -/
theorem checkDeclared_markDefaults (marks : NameSet String) (names : List String) :
    checkDeclared (markDefaults marks flags) names = checkDeclared flags names := by
  have same (name : String) :
      Flag.isDeclared name (markDefaults marks flags) = Flag.isDeclared name flags := by
    rw [Bool.eq_iff_iff, Flag.isDeclared_iff, Flag.isDeclared_iff, map_name_markDefaults]
  rw [checkDeclared_text, checkDeclared_text]
  simp only [same]

theorem checkTargets_eq_forM_map (flags others : List (Flag String)) :
    (others.forM fun flag => do checkDeclared flags (← flag.implies.sorted)) =
      (others.map (·.implies)).forM fun targets => checkDeclared flags targets.toList := by
  induction others with
  | nil => rfl
  | cons head rest ih => rw [forM_cons, List.map_cons, forM_cons, ih, NameSet.sorted_text, ok_bind]

theorem checkTargets_markDefaults (marks : NameSet String) :
    checkTargets (markDefaults marks flags) = checkTargets flags := by
  rw [checkTargets, checkTargets, checkTargets_eq_forM_map, checkTargets_eq_forM_map,
    map_markDefaults fun _ => rfl]
  exact forM_congr fun targets _ => checkDeclared_markDefaults marks targets.toList

theorem build_stages : build flags defaults conflicts artifact = (do
    checkNames [] flags
    checkDeclared flags (NameSet.ofList defaults).toList
    checkTargets flags
    checkDeclared flags (memberNames conflicts)
    checkAcyclic flags
    return ⟨markDefaults (.ofList defaults) flags, conflicts, artifact⟩) := by
  rw [build, assemble]
  simp only [ok_bind, NameSet.sorted_text, checkTargets_markDefaults, mapM_checkPair_eq,
    checkDeclared_markDefaults, checkAcyclic_markDefaults]
  cases checkDeclared flags (memberNames conflicts) <;> rfl

theorem build_of_firstDefect (defect : FirstDefect flags defaults conflicts error) :
    build flags defaults conflicts artifact = .error error := by
  rw [build_stages]
  cases defect with
  | @flagName before after flag _ whole wellNamed misnamed =>
    have stops : checkNames [] flags = .error error :=
      checkNames_eq_error_iff.2 ⟨before, flag, after, whole, wellNamed_iff_checkNames.1 wellNamed,
        misnamed.mono (by simp)⟩
    rw [stops, error_bind]
  | @defaultName name wellNamed least =>
    rw [wellNamed_iff_checkNames.1 wellNamed, ok_bind,
      checkDeclared_least_iff.2 ⟨name, least, rfl⟩, error_bind]
  | @target before after flag name wellNamed listed whole earlier least =>
    have stops : checkTargets flags = .error (.unknownFlag (.text name)) :=
      checkTargets_eq_error_iff.2 ⟨before, flag, after, whole, earlier, name, least, rfl⟩
    rw [wellNamed_iff_checkNames.1 wellNamed, ok_bind, checkDefaults_eq_ok_iff.2 listed, ok_bind,
      stops, error_bind]
  | @member before after name wellNamed listed targets whole earlier undeclared =>
    have targetsPass : checkTargets flags = .ok () := by
      refine checkTargets_eq_ok_iff.2 ?_
      rintro source target ⟨flag, present, _, implied⟩
      exact targets flag present target implied
    have stops : checkDeclared flags (memberNames conflicts) = .error (.unknownFlag (.text name)) :=
      checkDeclared_first_iff.2 ⟨before, name, after, whole, earlier, undeclared, rfl⟩
    rw [wellNamed_iff_checkNames.1 wellNamed, ok_bind, checkDefaults_eq_ok_iff.2 listed, ok_bind,
      targetsPass, ok_bind, stops, error_bind]

/-- A table has a first defect unless it is coherent. -/
theorem coherent_of_no_firstDefect
    (none : ∀ error, ¬ FirstDefect flags defaults conflicts error) :
    Coherent flags (.ofList defaults) conflicts := by
  have wellNamed : WellNamed flags := by
    refine wellNamed_iff_checkNames.2 (check_eq_ok_iff.2 fun error failed => none error ?_)
    obtain ⟨before, flag, after, whole, passed, misnamed⟩ := checkNames_eq_error_iff.1 failed
    exact .flagName whole (wellNamed_iff_checkNames.2 passed) (misnamed.mono (by simp))
  have listed : ∀ name ∈ defaults, Declared flags name := by
    refine checkDefaults_eq_ok_iff.1 (check_eq_ok_iff.2 fun error failed => none error ?_)
    obtain ⟨name, least, rfl⟩ := checkDeclared_least_iff.1 failed
    exact .defaultName wellNamed least
  have targets : ∀ source target, Implies flags source target → Declared flags target := by
    refine checkTargets_eq_ok_iff.1 (check_eq_ok_iff.2 fun error failed => none error ?_)
    obtain ⟨before, flag, after, whole, earlier, name, least, rfl⟩ :=
      checkTargets_eq_error_iff.1 failed
    exact .target wellNamed listed whole earlier least
  have allMembers : ∀ name ∈ memberNames conflicts, Declared flags name := by
    refine checkDeclared_eq_ok_iff.1 (check_eq_ok_iff.2 fun error failed => none error ?_)
    obtain ⟨before, name, after, whole, earlier, undeclared, rfl⟩ :=
      checkDeclared_first_iff.1 failed
    refine .member wellNamed listed ?_ whole earlier undeclared
    intro flag present target implied
    exact targets flag.name target ⟨flag, present, rfl, implied⟩
  exact {
    unreserved := wellNamed.unreserved
    distinct := wellNamed.distinct
    defaultsDeclared := fun name present => listed name (NameSet.mem_ofList.1 present)
    targetsDeclared := targets
    membersDeclared := fun pair present =>
      ⟨allMembers _ (mem_memberNames.2 ⟨pair, present, .inl rfl⟩),
        allMembers _ (mem_memberNames.2 ⟨pair, present, .inr rfl⟩)⟩ }

theorem exists_firstDefect_iff :
    (∃ error, FirstDefect flags defaults conflicts error) ↔
      ¬ Coherent flags (.ofList defaults) conflicts := by
  constructor
  · rintro ⟨error, defect⟩
    exact defect.not_coherent
  · intro broken
    by_contra none
    exact broken (coherent_of_no_firstDefect (not_exists.1 none))

/-! ## Cycles -/

/-- A cycle is reported only where there is no other defect. -/
theorem build_eq_cycle_iff {cycle : List String} :
    build flags defaults conflicts artifact = .error (.implicationCycle cycle) ↔
      Coherent flags (.ofList defaults) conflicts ∧
        checkAcyclic flags = .error (.implicationCycle cycle) := by
  by_cases coherent : Coherent flags (.ofList defaults) conflicts
  · have built : build flags defaults conflicts artifact = (checkAcyclic flags).map
        fun _ => ⟨markDefaults (.ofList defaults) flags, conflicts, artifact⟩ :=
      assemble_of_coherent coherent artifact
    rw [built, and_iff_right coherent]
    cases checkAcyclic flags with
    | ok _ => exact ⟨by rintro ⟨⟩, by rintro ⟨⟩⟩
    | error error => exact ⟨by rintro ⟨⟩; rfl, by rintro ⟨⟩; rfl⟩
  · obtain ⟨error, defect⟩ := exists_firstDefect_iff.2 coherent
    rw [build_of_firstDefect defect]
    refine ⟨?_, fun both => absurd both.1 coherent⟩
    rintro ⟨⟩
    cases defect with
    | flagName _ _ misnamed => cases misnamed

theorem checkAcyclic_eq_cycle_iff (coherent : Coherent flags (.ofList defaults) conflicts) :
    (∃ cycle, checkAcyclic flags = .error (.implicationCycle cycle)) ↔
      ∃ name, TransGen (Implies flags) name name := by
  constructor
  · rintro ⟨cycle, failed⟩
    obtain ⟨_, _, simple⟩ := checkAcyclic_eq_error coherent failed
    exact simple.cyclic
  · rintro ⟨name, path⟩
    cases outcome : checkAcyclic flags with
    | ok _ => exact absurd path ((checkAcyclic_eq_ok_iff coherent).1 outcome name)
    | error error =>
      obtain ⟨cycle, rfl, _⟩ := checkAcyclic_eq_error coherent outcome
      exact ⟨cycle, rfl⟩

/-! ## Lists of names -/

theorem declaredWith_eq {rows others : List (Flag String × List String)}
    (same : List.Forall₂ SameImplied rows others) : declaredWith others = declaredWith rows := by
  induction same with
  | nil => rfl
  | @cons row other rows others alike _ ih =>
    have sets : NameSet.ofList other.2 = NameSet.ofList row.2 :=
      NameSet.ext fun name => by rw [NameSet.mem_ofList, NameSet.mem_ofList, alike.names]
    have flag : other.1.implying other.2 = row.1.implying row.2 := by
      rw [Flag.implying, Flag.implying, sets, alike.flag]
    exact congrArg₂ List.cons flag ih

/-! ## Result -/

/-- A table is refused for its first defect. It has one unless it is coherent; of the coherent
tables those with a cycle are refused as cyclic, and all others become registries. Neither the order
nor the number of times in which names are listed as defaults or as implied makes a difference. -/
theorem build_firstDefect (flags : List (Flag String)) (defaults : List String)
    (conflicts : List (String × String)) (artifact : Option (Artifact String)) :
    (∀ error, FirstDefect flags defaults conflicts error →
      build flags defaults conflicts artifact = .error error) ∧
    ((∃ error, FirstDefect flags defaults conflicts error) ↔
      ¬ Coherent flags (.ofList defaults) conflicts) ∧
    ((∃ cycle, build flags defaults conflicts artifact = .error (.implicationCycle cycle)) ↔
      Coherent flags (.ofList defaults) conflicts ∧
        ∃ name, TransGen (Implies flags) name name) ∧
    ((∃ registry, build flags defaults conflicts artifact = .ok registry) ↔
      Coherent flags (.ofList defaults) conflicts ∧
        ∀ name, ¬ TransGen (Implies flags) name name) ∧
    ∀ (rows others : List (Flag String × List String)) (listed : List String),
      flags = declaredWith rows → List.Forall₂ SameImplied rows others →
      (∀ name, name ∈ listed ↔ name ∈ defaults) →
      build (declaredWith others) listed conflicts artifact =
        build flags defaults conflicts artifact := by
  refine ⟨fun error defect => build_of_firstDefect defect, exists_firstDefect_iff, ?_, ?_, ?_⟩
  · simp only [build_eq_cycle_iff, exists_and_left]
    exact and_congr_right checkAcyclic_eq_cycle_iff
  · constructor
    · rintro ⟨registry, built⟩
      obtain ⟨coherent, acyclic, _⟩ := build_eq_ok_iff.1 built
      exact ⟨coherent, acyclic⟩
    · rintro ⟨coherent, acyclic⟩
      exact ⟨_, build_eq_ok_iff.2 ⟨coherent, acyclic, rfl⟩⟩
  · rintro rows others listed rfl same alike
    have sets : NameSet.ofList listed = NameSet.ofList defaults :=
      NameSet.ext fun name => by rw [NameSet.mem_ofList, NameSet.mem_ofList, alike]
    rw [declaredWith_eq same, build, build, sets]

/-- Declarations of flags with three undeclared targets, two of them of one flag, and a flag that
implies itself. -/
def manyDefects : List (Flag String × List String) :=
  [({ name := "std" }, []), ({ name := "derive" }, ["zlib", "std", "alloc"]),
    ({ name := "rc" }, ["rc", "aarch"])]

theorem build_firstDefect_manyDefects :
    FirstDefect (declaredWith manyDefects) ["std"] [("std", "nope")]
        (.unknownFlag (.text "alloc")) ∧
      build (declaredWith manyDefects) ["std"] [("std", "nope")] none =
        .error (.unknownFlag (.text "alloc")) ∧
      build (declaredWith [({ name := "std" }, []),
          ({ name := "derive" }, ["alloc", "zlib", "std", "zlib"]),
          ({ name := "rc" }, ["aarch", "rc"])]) ["std", "std"] [("std", "nope")] none =
        .error (.unknownFlag (.text "alloc")) := by
  obtain ⟨reports, _, _, _, alike⟩ :=
    build_firstDefect (declaredWith manyDefects) ["std"] [("std", "nope")] none
  have defect : FirstDefect (declaredWith manyDefects) ["std"] [("std", "nope")]
      (.unknownFlag (.text "alloc")) := by
    have whole : declaredWith manyDefects = declaredWith (manyDefects.take 1) ++
        Flag.implying { name := "derive" } ["zlib", "std", "alloc"] ::
          declaredWith (manyDefects.drop 2) := rfl
    refine .target ⟨by decide, by decide⟩ (by decide) whole ?_ ?_
    · simp [declaredWith, manyDefects, Flag.implying]
    · refine ⟨by decide, by decide, fun other present undeclared => ?_⟩
      have listed : other = "zlib" ∨ other = "std" ∨ other = "alloc" := by
        simpa [manyDefects, Flag.implying] using present
      rcases listed with rfl | rfl | rfl
      · decide
      · exact absurd (by decide) undeclared
      · decide
  have refused := reports _ defect
  refine ⟨defect, refused, ?_⟩
  rw [← refused]
  refine alike manyDefects _ _ rfl ?_ (by simp)
  refine .cons ⟨rfl, by simp⟩ (.cons ⟨rfl, fun name => ?_⟩ (.cons ⟨rfl, fun name => ?_⟩ .nil))
  · simp only [List.mem_cons, List.not_mem_nil]
    tauto
  · simp only [List.mem_cons, List.not_mem_nil]
    tauto

end Registry

end FeatureResolution
