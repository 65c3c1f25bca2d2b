import FeatureResolution.CheckedFile
import FeatureResolution.Proofs.SchemaReport

/-!
# Profiles with a mode that there is not

The schema of profiles offers the two build modes, so a profile with another value in their place
breaks it. What is then reported is found without fail, whatever else is wrong with the profile:
up to the mode everything found can be compared (`Schema.Locates`), from then on the violation in
hand stands at most one field deep, and the declared artifacts, which may be called by anything,
are compared with it by the name of their own field alone (`Violation.best_shallow`).

Result: such a profile is reported as a bad manifest, unless something that is wrong with it cannot
be written out (`FileTree.loadProfile_unsupported`).
-/

namespace FeatureResolution

variable {document : Document}

/-! ## The violation to report -/

namespace Violation

/-- Everything that a violation quotes can be written out. -/
def Writable (violation : Violation) : Prop :=
  violation.cause.isWritable violation.document = true

/-- A violation stands at the whole document or at a field with a text as its name. -/
def Shallow (violation : Violation) : Prop :=
  violation.path = [] ∨ ∃ name, violation.path = [.field (.text name)]

/-- One step of the search: what the next violation quotes is written out, and the one to report of
the two is kept. -/
def consider (best other : Violation) : Except Error Violation := do
  needWritable (other.cause.isWritable other.document)
  return if ← best.yieldsTo other then other else best

theorem best_eq (first : Violation) (rest : List Violation) :
    first.best rest =
      (needWritable (first.cause.isWritable first.document) >>= fun _ =>
        rest.foldlM consider first) :=
  rfl

theorem needWritable_safe (violation : Violation) :
    Safe (fun error => error = .fault .numberTooLong ∧ ¬ violation.Writable) (fun _ => True)
      (needWritable (violation.cause.isWritable violation.document)) := by
  unfold needWritable
  split
  · trivial
  · next unwritable => exact ⟨rfl, unwritable⟩

theorem writable_of_needWritable {violation : Violation} {done : Unit}
    (written : needWritable (violation.cause.isWritable violation.document) = .ok done) :
    violation.Writable := by
  unfold needWritable at written
  split at written
  · next writable => exact writable
  · cases written

/-- The search writes out what all violations quote. -/
theorem writable_of_foldlM {rest : List Violation} {start best : Violation}
    (found : rest.foldlM consider start = .ok best) : ∀ other ∈ rest, other.Writable := by
  induction rest generalizing start with
  | nil => exact List.forall_mem_nil _
  | cons head more ih =>
    rw [List.foldlM_cons] at found
    obtain ⟨kept, considered, later⟩ := bind_eq_ok_iff.1 found
    obtain ⟨_, written, _⟩ := bind_eq_ok_iff.1 considered
    exact List.forall_mem_cons.2 ⟨writable_of_needWritable written, ih later⟩

theorem writable_of_best {first best : Violation} {rest : List Violation}
    (found : first.best rest = .ok best) : ∀ violation ∈ first :: rest, violation.Writable := by
  rw [best_eq] at found
  obtain ⟨_, written, later⟩ := bind_eq_ok_iff.1 found
  exact List.forall_mem_cons.2 ⟨writable_of_needWritable written, writable_of_foldlM later⟩

/-! ## Shallow violations -/

/-- A place in a map that is one step away is a field of it. -/
theorem At.shallow {violation : Violation} (placed : violation.At document)
    {fields : List (Scalar × Document)} (opened : document.opened = .map fields)
    (short : violation.path.length ≤ 1) : violation.Shallow := by
  obtain ⟨path, inner, fits, cause⟩ := violation
  cases placed.inside with
  | here => exact .inl rfl
  | through leads more =>
    cases more with
    | through _ _ => simp at short
    | here =>
      cases leads with
      | field _ _ => exact .inr ⟨_, rfl⟩
      | item openedToo _ => cases opened.symm.trans openedToo

/-- A shallow violation can be compared with any below a field, and the one to keep is shallow. -/
theorem Shallow.exists_yieldsTo {best other : Violation} (shallow : best.Shallow) {name : String}
    {path : List Step} (below : other.path = .field (.text name) :: path) :
    ∃ yields, best.yieldsTo other = .ok yields ∧ (yields = true → other.Shallow) := by
  rcases shallow with atAll | ⟨known, atField⟩
  · exact ⟨false, by simp [yieldsTo, atAll, below], nofun⟩
  · cases path with
    | cons _ _ => exact ⟨false, by simp [yieldsTo, atField, below], nofun⟩
    | nil =>
      -- Both stand at fields that are named by texts, and texts have an order.
      have compared : ∃ earlier, pathBefore best.path other.path = .ok earlier := by
        rw [atField, below, pathBefore]
        split
        · exact ⟨false, rfl⟩
        · exact Step.exists_before rfl (by simp [Step.value, Scalar.family])
      obtain ⟨earlier, compared⟩ := compared
      have isShallow : other.Shallow := .inr ⟨name, below⟩
      unfold yieldsTo
      rw [if_neg (by simp [atField, below]), if_neg (by simp [atField, below])]
      split
      · exact ⟨_, rfl, fun _ => isShallow⟩
      · exact ⟨earlier, compared, fun _ => isShallow⟩

/-! ## The search -/

section Search

variable {found : List Violation}

/-- The only failure of the search: something among what was found cannot be written out. -/
def Unquotable (found : List Violation) (error : Error) : Prop :=
  error = .fault .numberTooLong ∧ ∃ violation ∈ found, ¬ violation.Writable

theorem quoted_safe {violation : Violation} (listed : violation ∈ found) :
    Safe (Unquotable found) (fun _ => True)
      (needWritable (violation.cause.isWritable violation.document)) :=
  violation.needWritable_safe.mono (fun _ failed => ⟨failed.1, violation, listed, failed.2⟩)
    fun _ _ => trivial

theorem At.consider_safe {best other : Violation} (listed : other ∈ found)
    (placed : best.At document) (otherPlaced : other.At document) :
    Safe (Unquotable found) (At document) (best.consider other) := by
  refine (quoted_safe listed).bind fun _ _ => ?_
  obtain ⟨yields, decided⟩ := placed.exists_yieldsTo otherPlaced
  rw [decided]
  cases yields with
  | true => exact otherPlaced
  | false => exact placed

/-- Once a violation one step deep has been considered, the one in hand is not deeper. -/
theorem At.consider_named {best named : Violation} (listed : named ∈ found)
    (placed : best.At document) (namedPlaced : named.At document)
    (oneStep : named.path.length = 1) :
    Safe (Unquotable found) (fun kept => kept.At document ∧ kept.path.length ≤ 1)
      (best.consider named) := by
  refine (quoted_safe listed).bind fun _ _ => ?_
  obtain ⟨yields, decided⟩ := placed.exists_yieldsTo namedPlaced
  rw [decided]
  cases yields with
  | true => exact ⟨namedPlaced, Nat.le_of_eq oneStep⟩
  | false =>
    refine ⟨placed, Nat.le_of_not_lt fun deeper => ?_⟩
    rw [yieldsTo, if_pos (oneStep ▸ deeper)] at decided
    cases decided

theorem Shallow.consider_safe {best other : Violation} (listed : other ∈ found)
    (shallow : best.Shallow) {name : String} {path : List Step}
    (below : other.path = .field (.text name) :: path) :
    Safe (Unquotable found) Shallow (best.consider other) := by
  refine (quoted_safe listed).bind fun _ _ => ?_
  obtain ⟨yields, decided, keeps⟩ := shallow.exists_yieldsTo below
  rw [decided]
  cases yields with
  | true => exact keeps rfl
  | false => exact shallow

/-- The search in a map: what comes before a violation at one of the fields can be compared, and
what comes after it stands below fields. -/
theorem best_shallow {fields : List (Scalar × Document)} (opened : document.opened = .map fields)
    {first named : Violation} {rest before after : List Violation}
    (whole : first :: rest = before ++ named :: after)
    (placed : ∀ violation ∈ before, violation.At document) (namedPlaced : named.At document)
    (oneStep : named.path.length = 1)
    (below : ∀ other ∈ after, ∃ name path, other.path = .field (.text name) :: path) :
    Safe (Unquotable (first :: rest)) Shallow (first.best rest) := by
  have search {best : Violation} (shallow : best.Shallow) :
      Safe (Unquotable (first :: rest)) Shallow (after.foldlM consider best) := by
    refine safe_foldlM shallow fun kept keptShallow other present => ?_
    obtain ⟨name, path, isBelow⟩ := below other present
    exact keptShallow.consider_safe (by simp [whole, present]) isBelow
  rw [best_eq]
  refine (quoted_safe List.mem_cons_self).bind fun _ _ => ?_
  -- The search begins with the named violation, or it comes to it with one that can be compared.
  cases before with
  | nil =>
    obtain ⟨rfl, rfl⟩ := List.cons.inj whole
    exact search (namedPlaced.shallow opened (Nat.le_of_eq oneStep))
  | cons head more =>
    rw [List.cons_append] at whole
    obtain ⟨rfl, rfl⟩ := List.cons.inj whole
    obtain ⟨headPlaced, morePlaced⟩ := List.forall_mem_cons.1 placed
    rw [List.foldlM_append]
    have start : Safe (Unquotable (first :: (more ++ named :: after))) (At document)
        (more.foldlM consider first) :=
      safe_foldlM headPlaced fun kept keptPlaced other present =>
        keptPlaced.consider_safe (by simp [present]) (morePlaced other present)
    refine start.bind fun best bestPlaced => ?_
    rw [List.foldlM_cons]
    refine (bestPlaced.consider_named (by simp) namedPlaced oneStep).bind fun kept short => ?_
    exact search (short.1.shallow opened short.2)

end Search

end Violation

/-! ## What is wrong with a profile -/

/-- A value is the name of none of the two build modes. -/
def BuildMode.Unsupported (value : Document) : Prop :=
  ∀ mode : BuildMode, value ≠ .text mode.name

theorem rulesViolations_append (first second : List Rule) (fits : Bool) (document : Document) :
    rulesViolations (first ++ second) fits document =
      rulesViolations first fits document ++ rulesViolations second fits document := by
  induction first with
  | nil => rfl
  | cons rule rest ih => rw [List.cons_append, rulesViolations, ih, rulesViolations,
      List.append_assoc]

theorem fieldsViolations_append (first second : List (String × Schema))
    (fields : List (Scalar × Document)) :
    fieldsViolations (first ++ second) fields =
      fieldsViolations first fields ++ fieldsViolations second fields := by
  induction first with
  | nil => rfl
  | cons part rest ih =>
    obtain ⟨name, schema⟩ := part
    rw [List.cons_append, fieldsViolations, ih, fieldsViolations, List.append_assoc]

theorem rulesViolations_fields {fields : List (Scalar × Document)}
    (opened : document.opened = .map fields) (schemas : List (String × Schema)) (fits : Bool) :
    rulesViolations [.fields schemas] fits document = fieldsViolations schemas fields := by
  rw [rulesViolations, rulesViolations, List.append_nil, ruleViolations.eq_def]
  simp only [opened]

namespace Schema

/-- The schema of the mode in a profile. -/
def buildMode : Schema :=
  .rules [.kind .string, .oneOf ["release", "dev"]]

/-- The fields of a profile that are checked before the mode. -/
def beforeMode : List (String × Schema) :=
  [("name", someText), ("description", anyText), ("features", listOf someText),
    ("default_features", .rules [.kind .boolean])]

/-- What the schema of profiles says of the profile itself. -/
def profileRules : List Rule :=
  [.kind .object, .required ["name"],
    .closed ["name", "description", "features", "default_features", "mode", "artifacts"]]

theorem profile_eq : profile =
    .rules (profileRules ++ [.fields (beforeMode ++ [("mode", buildMode)] ++
      [("artifacts", .rules [.kind .object, .eachField someText])])]) :=
  rfl

/-- A value that is no mode is found to be none of the two, after its kind has been checked. -/
theorem exists_violations_buildMode {value : Document}
    (unsupported : BuildMode.Unsupported value.opened) : ∃ before fits,
    buildMode.violations value = before ++ [⟨[], value, fits, .notOneOf ["release", "dev"]⟩] := by
  have release := unsupported .release
  have dev := unsupported .dev
  simp only [BuildMode.name] at release dev
  refine ⟨ruleViolations (.kind .string) (Kind.string.admits value) value,
    Kind.string.admits value, ?_⟩
  simp [buildMode, violations, rulesViolations, ruleViolations, Rule.expectedKind?, release, dev]

theorem locates_beforeMode : ∀ part ∈ beforeMode ++ [("mode", buildMode)], part.2.Locates := by
  simp only [beforeMode, List.cons_append, List.nil_append, List.forall_mem_cons]
  exact ⟨locates_simple rfl, locates_simple rfl, locates_listOf (locates_simple rfl),
    locates_simple rfl, locates_simple rfl, List.forall_mem_nil _⟩

/-- Among what is wrong with a profile, its mode stands at its field; what is found before it stands
at places in the profile, and what is found after it below a field. -/
theorem exists_violations_profile {fields : List (Scalar × Document)} {value : Document}
    (opened : document.opened = .map fields)
    (given : Document.lookup (.text "mode") fields = some value)
    (unsupported : BuildMode.Unsupported value.opened) :
    ∃ before named after, profile.violations document = before ++ named :: after ∧
      (∀ violation ∈ before, violation.At document) ∧ named.At document ∧
      named.path.length = 1 ∧
      ∀ other ∈ after, ∃ name path, other.path = .field (.text name) :: path := by
  obtain ⟨kinds, fits, ofMode⟩ := exists_violations_buildMode unsupported
  have inMode : fieldsViolations (beforeMode ++ [("mode", buildMode)]) fields =
      fieldsViolations beforeMode fields ++ kinds.map (·.under (.field (.text "mode"))) ++
        [⟨[.field (.text "mode")], value, fits, .notOneOf ["release", "dev"]⟩] := by
    simp [fieldsViolations_append, fieldsViolations, given, ofMode, Violation.under]
  have placed := fieldsViolations_at opened locates_beforeMode
  rw [inMode, List.forall_mem_append] at placed
  obtain ⟨beforePlaced, namedPlaced⟩ := placed
  have rules (overall : Bool) : ∀ violation ∈ rulesViolations profileRules overall document,
      violation.At document :=
    rulesViolations_at (by simp [profileRules, Rule.Within]) overall document
  refine ⟨rulesViolations profileRules (Kind.object.admits document) document ++
      (fieldsViolations beforeMode fields ++ kinds.map (·.under (.field (.text "mode")))),
    ⟨[.field (.text "mode")], value, fits, .notOneOf ["release", "dev"]⟩,
    fieldsViolations [("artifacts", .rules [.kind .object, .eachField someText])] fields,
    ?_, List.forall_mem_append.2 ⟨rules _, beforePlaced⟩,
    List.forall_mem_singleton.1 namedPlaced, rfl, ?_⟩
  · rw [profile_eq, violations, rulesViolations_append, rulesViolations_fields opened,
      fieldsViolations_append, inMode]
    simp [Rule.expectedKind?, profileRules]
  · intro other present
    simp only [fieldsViolations, List.append_nil] at present
    split at present
    · obtain ⟨inner, _, rfl⟩ := List.mem_map.1 present
      exact ⟨"artifacts", inner.path, by simp [Violation.under]⟩
    · cases present

/-- A profile with a mode that there is not breaks the schema, and this is reported unless something
that is wrong with it cannot be written out. -/
theorem check_unsupported {fields : List (Scalar × Document)} {value : Document}
    (opened : document.opened = .map fields)
    (given : Document.lookup (.text "mode") fields = some value)
    (unsupported : BuildMode.Unsupported value.opened) :
    (∀ violation ∈ profile.violations document, violation.Writable) ∧
        (∃ violation, profile.check document = .ok (some violation)) ∨
      (∃ violation ∈ profile.violations document, ¬ violation.Writable) ∧
        profile.check document = .error (.fault .numberTooLong) := by
  obtain ⟨before, named, after, whole, placed, namedPlaced, oneStep, below⟩ :=
    exists_violations_profile opened given unsupported
  unfold check
  cases found : profile.violations document with
  | nil => simp [found] at whole
  | cons first rest =>
    have safe := Violation.best_shallow opened (found.symm.trans whole) placed namedPlaced oneStep
      below
    dsimp only
    cases best : first.best rest with
    | error error =>
      obtain ⟨rfl, unwritable⟩ := safe.of_error best
      exact .inr ⟨unwritable, rfl⟩
    | ok violation =>
      have written : (violation.path.all fun step => step.value.isWritable) = true := by
        rcases safe.of_ok best with atAll | ⟨name, atField⟩
        · simp [atAll]
        · simp [atField, Step.value, Scalar.isWritable]
      refine .inl ⟨Violation.writable_of_best best, violation, ?_⟩
      rw [ok_bind, written]
      rfl

end Schema

/-! ## Loading -/

/-- A profile with a mode that there is not is a bad manifest, unless something that is wrong with
it cannot be written out. -/
theorem FileTree.loadProfile_unsupported {tree : FileTree} {path : String} {value : Document}
    (stands : tree.find? (.ofText path) = .ok (some (.file (.ok document))))
    (given : document.field? "mode" = .ok (some value))
    (unsupported : BuildMode.Unsupported value.opened) :
    (∀ violation ∈ Schema.profile.violations document, violation.Writable) ∧
        (∃ detail, tree.loadProfile path = .error (.badManifest path detail)) ∨
      (∃ violation ∈ Schema.profile.violations document, ¬ violation.Writable) ∧
        tree.loadProfile path = .error (.fault .numberTooLong) := by
  cases opened : document.opened with
  | map fields =>
    simp only [Document.field?, opened, Except.ok.injEq] at given
    have nonempty : document.truthy = true := by
      rw [Document.truthy, opened]
      cases fields with
      | nil => cases given
      | cons _ _ => rfl
    rw [loadProfile, load, stands, ok_bind]
    dsimp only
    rw [nonempty]
    rcases Schema.check_unsupported opened given unsupported with
      ⟨writable, violation, reported⟩ | ⟨unwritable, failed⟩
    · rw [reported]
      exact .inl ⟨writable, _, rfl⟩
    · rw [failed]
      exact .inr ⟨unwritable, rfl⟩
  | _ => simp [Document.field?, opened] at given

end FeatureResolution
