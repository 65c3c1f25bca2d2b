import FeatureResolution.Proofs.Safety
import FeatureResolution.Proofs.Schema

/-!
# A schema reports what it finds

Everything that a schema of named fields finds wrong in a document stands at a place inside the
document (`Inside`), and tells of what stands there (`Schema.Locates`). Ways to two such places
part, if they do, either at two fields of one map or at two items of one list, so one can always be
told to come before the other (`exists_pathBefore`). So which violation to report can be decided,
and the report can fail only where something in the document is too long to be written out
(`check_safe`).
-/

namespace FeatureResolution

/-! ## Places in a document -/

/-- A step leads from a document to one of its fields, named by a text, or to one of its items. -/
inductive Leads : Document → Step → Document → Prop
  | field {document value : Document} {fields : List (Scalar × Document)} {name : String} :
      document.opened = .map fields → Document.lookup (.text name) fields = some value →
      Leads document (.field (.text name)) value
  | item {document value : Document} {items : List Document} {index : Nat} :
      document.opened = .list items → items[index]? = some value →
      Leads document (.item index) value

/-- The steps that lead from a document to one inside it. -/
inductive Inside : Document → List Step → Document → Prop
  | here (document : Document) : Inside document [] document
  | through {document value inner : Document} {step : Step} {path : List Step} :
      Leads document step value → Inside value path inner → Inside document (step :: path) inner

namespace Document

/-- Nothing in a document contains itself. All documents of JSON are plain. -/
inductive Plain : Document → Prop
  | scalar (value : Scalar) : Plain (.scalar value)
  | list {items : List Document} : (∀ item ∈ items, Plain item) → Plain (.list items)
  | map {fields : List (Scalar × Document)} : (∀ field ∈ fields, Plain field.2) →
      Plain (.map fields)
  | set (members : List Scalar) : Plain (.set members)
  | pair {first second : Document} : Plain first → Plain second → Plain (.pair first second)

/-- Something in a document is too long to be written out, or the number of an item is. -/
def Overlong (document : Document) : Prop :=
  ∃ path inner, Inside document path inner ∧
    (inner.isWritable = false ∨ ∃ step ∈ path, step.value.isWritable = false)

variable {document : Document}

theorem Plain.opened (plain : document.Plain) : document.opened = document := by
  cases plain <;> rfl

theorem Plain.of_lookup {key : Scalar} {fields : List (Scalar × Document)} {value : Document}
    (plain : (Document.map fields).Plain) (found : lookup key fields = some value) :
    value.Plain := by
  obtain ⟨field, present, _, rfl⟩ := mem_of_lookup found
  cases plain with
  | map each => exact each field present

theorem Plain.of_mem {items : List Document} {item : Document} (plain : (Document.list items).Plain)
    (present : item ∈ items) : item.Plain := by
  cases plain with
  | list each => exact each item present

theorem Plain.of_leads {step : Step} {value : Document} (plain : document.Plain)
    (leads : Leads document step value) : value.Plain := by
  cases leads with
  | field opened found =>
    rw [plain.opened] at opened
    subst opened
    exact plain.of_lookup found
  | item opened found =>
    rw [plain.opened] at opened
    subst opened
    exact plain.of_mem (List.mem_of_getElem? found)

theorem Plain.inside {path : List Step} {inner : Document} (plain : document.Plain)
    (inside : Inside document path inner) : inner.Plain := by
  induction inside with
  | here => exact plain
  | through leads _ ih => exact ih (plain.of_leads leads)

theorem isWritable_of_mem {fields : List (Scalar × Document)}
    (writable : (Document.map fields).isWritable = true) :
    ∀ field ∈ fields, field.1.isWritable = true := by
  rw [isWritable] at writable
  induction fields with
  | nil => exact List.forall_mem_nil _
  | cons head rest ih =>
    rw [fieldsAreWritable, Bool.and_eq_true, Bool.and_eq_true] at writable
    exact List.forall_mem_cons.2 ⟨writable.1.1, ih writable.2⟩

end Document

/-! ## Ways that part -/

theorem Binary64.unitsInOne_pos : 0 < Binary64.unitsInOne := by
  delta unitsInOne
  generalize 1074 = exponent
  exact Nat.pow_pos Nat.two_pos

theorem Scalar.same_int (first second : Int) :
    (Scalar.int first).same (.int second) = decide (first = second) := by
  have units : (Binary64.unitsInOne : Int) ≠ 0 :=
    Int.natCast_ne_zero.2 (Nat.ne_of_gt Binary64.unitsInOne_pos)
  have ranked (value : Int) : (Scalar.int value).rank = ⟨2, value * Binary64.unitsInOne, []⟩ := rfl
  rw [same, ranked, ranked, decide_eq_decide, Rank.mk.injEq, Int.mul_eq_mul_right_iff units]
  exact ⟨fun same => same.2.1, fun same => ⟨rfl, same, rfl⟩⟩

/-- Two steps that count as the same lead to the same document. -/
theorem Leads.eq_of_same {document first second : Document} {step other : Step}
    (leads : Leads document step first) (beside : Leads document other second)
    (same : step.value.same other.value = true) : first = second := by
  cases leads with
  | field opened found =>
    cases beside with
    | item openedToo _ => cases opened.symm.trans openedToo
    | field openedToo foundToo =>
      cases opened.symm.trans openedToo
      simp only [Step.value, Scalar.same_text, decide_eq_true_eq] at same
      subst same
      exact Option.some.inj (found.symm.trans foundToo)
  | item opened found =>
    cases beside with
    | field openedToo _ => cases opened.symm.trans openedToo
    | item openedToo foundToo =>
      cases opened.symm.trans openedToo
      simp only [Step.value, Scalar.same_int, decide_eq_true_eq, Int.natCast_inj] at same
      subst same
      exact Option.some.inj (found.symm.trans foundToo)

/-- Two steps of one family can be compared. -/
theorem Step.exists_before {first second : Step}
    (family : first.value.family = second.value.family) (some : first.value.family ≠ .null) :
    ∃ earlier, first.before second = .ok earlier := by
  have order : Label.haveOrder
      [Document.scalar first.value, Document.scalar second.value] = true := by
    simp only [Label.haveOrder, Label.document, Document.family?, List.all_cons, List.all_nil,
      ← family, beq_self_eq_true, Bool.and_true, bne_iff_ne]
    simpa using some
  rw [before, if_pos order]
  exact ⟨_, rfl⟩

/-- Two steps from one document can be compared. -/
theorem Leads.exists_before {document first second : Document} {step other : Step}
    (leads : Leads document step first) (beside : Leads document other second) :
    ∃ earlier, step.before other = .ok earlier := by
  cases leads with
  | field opened _ =>
    cases beside with
    | item openedToo _ => cases opened.symm.trans openedToo
    | field _ _ => exact Step.exists_before rfl (by simp [Step.value, Scalar.family])
  | item opened _ =>
    cases beside with
    | field openedToo _ => cases opened.symm.trans openedToo
    | item _ _ => exact Step.exists_before rfl (by simp [Step.value, Scalar.family])

/-- Two ways from one document can be compared: up to where they part they lead to the same. -/
theorem exists_pathBefore {document inner other : Document} {path way : List Step}
    (inside : Inside document path inner) (beside : Inside document way other) :
    ∃ earlier, pathBefore path way = .ok earlier := by
  induction inside generalizing way other with
  | here =>
    refine ⟨false, ?_⟩
    cases way <;> rfl
  | through leads _ ih =>
    cases beside with
    | here => exact ⟨false, rfl⟩
    | through leadsToo below =>
      rw [pathBefore]
      split
      · next same =>
        have shared := leads.eq_of_same leadsToo same
        subst shared
        exact ih below
      · exact leads.exists_before leadsToo

/-! ## What a schema finds -/

/-- A violation stands at a place inside a document and tells of what stands there; the names it
finds too many are names of fields there. -/
structure Violation.At (document : Document) (violation : Violation) : Prop where
  inside : Inside document violation.path violation.document
  extra : ∀ names, violation.cause = .extraFields names →
    ∃ fields, violation.document.opened = .map fields ∧ ∀ name ∈ names, name ∈ fields.map (·.1)

/-- Whatever a schema finds wrong in a document stands at a place inside it. -/
def Schema.Locates (schema : Schema) : Prop :=
  ∀ document, ∀ violation ∈ schema.violations document, violation.At document

/-- A rule refers only to schemas of a kind, and to them by named fields and items. -/
def Rule.Within (holds : Schema → Prop) : Rule → Prop
  | .eachField _ => False
  | .fields schemas => ∀ part ∈ schemas, holds part.2
  | .items schema => holds schema
  | _ => True

/-- A rule that refers to no schema. -/
def Rule.isSimple : Rule → Bool
  | .eachField _ | .fields _ | .items _ => false
  | _ => true

theorem Violation.at_here {document : Document} {fits : Bool} {cause : Cause}
    (plain : ∀ names, cause ≠ .extraFields names) :
    (⟨[], document, fits, cause⟩ : Violation).At document where
  inside := .here document
  extra names same := absurd same (plain names)

theorem fieldsViolations_at {document : Document} {fields : List (Scalar × Document)}
    (opened : document.opened = .map fields) {schemas : List (String × Schema)}
    (locate : ∀ part ∈ schemas, part.2.Locates) :
    ∀ violation ∈ fieldsViolations schemas fields, violation.At document := by
  induction schemas with
  | nil => exact List.forall_mem_nil _
  | cons part rest ih =>
    obtain ⟨name, schema⟩ := part
    obtain ⟨schemaLocates, restLocate⟩ := List.forall_mem_cons.1 locate
    rw [fieldsViolations, List.forall_mem_append]
    refine ⟨?_, ih restLocate⟩
    split
    · next value found =>
      rw [List.forall_mem_map]
      intro violation present
      have placed := schemaLocates value violation present
      exact ⟨.through (.field opened found) placed.inside, placed.extra⟩
    · exact List.forall_mem_nil _

theorem itemsViolations_at {document : Document} {items : List Document}
    (opened : document.opened = .list items) {schema : Schema} (locates : schema.Locates) :
    ∀ violation ∈ items.zipIdx.flatMap fun (item, index) =>
      (schema.violations item).map (·.under (.item index)), violation.At document := by
  intro violation present
  obtain ⟨⟨item, index⟩, listed, found⟩ := List.mem_flatMap.1 present
  obtain ⟨below, isBelow, rfl⟩ := List.mem_map.1 found
  have placed := locates item below isBelow
  have leads : Leads document (.item index) item :=
    .item opened (List.mem_zipIdx_iff_getElem?.1 listed)
  exact ⟨.through leads placed.inside, placed.extra⟩

theorem ruleViolations_at {rule : Rule} (within : rule.Within Schema.Locates) (fits : Bool)
    (document : Document) : ∀ violation ∈ ruleViolations rule fits document,
      violation.At document := by
  have here (cause : Cause) (plain : ∀ names, cause ≠ .extraFields names) :
      ∀ violation ∈ [(⟨[], document, fits, cause⟩ : Violation)], violation.At document :=
    List.forall_mem_singleton.2 (Violation.at_here plain)
  have none : ∀ violation ∈ ([] : List Violation), violation.At document :=
    List.forall_mem_nil _
  rw [ruleViolations.eq_def]
  -- The cases come in the order of the rules.
  split <;> simp only [*]
  case h_2 =>
    rw [List.forall_mem_map]
    exact fun name _ => Violation.at_here (by intro _ same; cases same)
  case h_3 names fields opened =>
    split
    · exact none
    · refine List.forall_mem_singleton.2 ⟨.here document, fun extra same => ?_⟩
      cases same
      refine ⟨fields, opened, fun name present => ?_⟩
      have kept := (Text.perm_sortedBy Scalar.shown _).mem_iff.1 present
      exact (List.mem_filter.1 kept).1
  case h_4 => exact within.elim
  case h_5 opened => exact fieldsViolations_at opened within
  case h_6 opened => exact itemsViolations_at opened within
  case h_15 => exact none
  -- Any other rule finds at most one thing wrong, and that with the document itself.
  all_goals split <;> first | exact none | exact here _ (by intro _ same; cases same)

theorem rulesViolations_at {rules : List Rule}
    (within : ∀ rule ∈ rules, rule.Within Schema.Locates) (fits : Bool) (document : Document) :
    ∀ violation ∈ rulesViolations rules fits document, violation.At document := by
  induction rules with
  | nil => exact List.forall_mem_nil _
  | cons rule rest ih =>
    obtain ⟨ruleWithin, restWithin⟩ := List.forall_mem_cons.1 within
    rw [rulesViolations, List.forall_mem_append]
    exact ⟨ruleViolations_at ruleWithin fits document, ih restWithin⟩

theorem Schema.locates_rules {rules : List Rule}
    (within : ∀ rule ∈ rules, rule.Within Schema.Locates) : (Schema.rules rules).Locates := by
  intro document
  rw [violations]
  exact rulesViolations_at within _ document

/-! ## The report -/

/-- The error of a report that cannot be written. -/
def ReportFault (document : Document) (error : Error) : Prop :=
  error = .fault .numberTooLong ∧ document.Overlong

variable {document : Document}

/-- What a violation quotes stands in the document around it. -/
theorem Violation.At.quotes_safe {violation : Violation} (placed : violation.At document)
    (plain : document.Plain) :
    Safe (ReportFault document) (fun _ => True)
      (needWritable (violation.cause.isWritable violation.document)) := by
  unfold needWritable
  split
  · trivial
  · next unwritable =>
    refine ⟨rfl, violation.path, violation.document, placed.inside, .inl ?_⟩
    cases found : violation.cause with
    | missingField name => simp [found, Cause.isWritable] at unwritable
    | extraFields names =>
      obtain ⟨fields, opened, known⟩ := placed.extra names found
      rw [(plain.inside placed.inside).opened] at opened
      rw [opened, Bool.eq_false_iff]
      intro writable
      simp only [found, Cause.isWritable, List.all_eq_true] at unwritable
      refine unwritable fun name present => ?_
      obtain ⟨field, isField, rfl⟩ := List.mem_map.1 (known name present)
      exact Document.isWritable_of_mem writable field isField
    | _ => simpa [found, Cause.isWritable] using unwritable

theorem Violation.At.exists_yieldsTo {first second : Violation} (placed : first.At document)
    (other : second.At document) : ∃ yields, first.yieldsTo second = .ok yields := by
  unfold Violation.yieldsTo
  split
  · exact ⟨true, rfl⟩
  · split
    · exact ⟨false, rfl⟩
    · split
      · exact ⟨_, rfl⟩
      · exact exists_pathBefore placed.inside other.inside

/-- Of the violations in one document, the one to report can be found. -/
theorem Violation.best_safe (plain : document.Plain) {first : Violation} {rest : List Violation}
    (placed : first.At document) (others : ∀ other ∈ rest, other.At document) :
    Safe (ReportFault document) (Violation.At document) (first.best rest) := by
  refine (placed.quotes_safe plain).bind fun _ _ => safe_foldlM placed ?_
  intro best bestPlaced other present
  have otherPlaced := others other present
  refine (otherPlaced.quotes_safe plain).bind fun _ _ => ?_
  obtain ⟨yields, decided⟩ := bestPlaced.exists_yieldsTo otherPlaced
  rw [decided]
  cases yields with
  | true => exact otherPlaced
  | false => exact bestPlaced

/-- A schema of named fields accepts a plain document or reports what is wrong, unless something in
the document is too long to be written out. -/
theorem Schema.check_safe {schema : Schema} (locates : schema.Locates) (plain : document.Plain) :
    Safe (ReportFault document) (fun _ => True) (schema.check document) := by
  have placed := locates document
  unfold check
  split
  · trivial
  · next first rest found =>
    rw [found] at placed
    obtain ⟨firstPlaced, restPlaced⟩ := List.forall_mem_cons.1 placed
    refine (Violation.best_safe plain firstPlaced restPlaced).bind fun best bestPlaced => ?_
    unfold needWritable
    split
    · trivial
    · next unwritable =>
      rw [List.all_eq_true] at unwritable
      refine ⟨rfl, best.path, best.document, bestPlaced.inside, .inr ?_⟩
      simpa using unwritable

/-! ## The schema of manifests -/

namespace Schema

theorem locates_record {required : List String} {schemas : List (String × Schema)}
    (locate : ∀ part ∈ schemas, part.2.Locates) : (record required schemas).Locates :=
  locates_rules (by simpa [Rule.Within] using locate)

theorem locates_listOf {item : Schema} (locates : item.Locates) : (listOf item).Locates :=
  locates_rules (by simpa [Rule.Within] using locates)

theorem locates_simple {rules : List Rule} (simple : rules.all Rule.isSimple = true) :
    (Schema.rules rules).Locates := by
  refine locates_rules fun rule present => ?_
  have alone := List.all_eq_true.1 simple rule present
  cases rule with
  | eachField schema | fields schemas | items schema => cases alone
  | _ => trivial

theorem locates_flagName : flagName.Locates :=
  locates_simple rfl

theorem locates_flag : flag.Locates := by
  refine locates_record ?_
  simp only [List.forall_mem_cons]
  exact ⟨locates_flagName, locates_simple rfl, locates_simple rfl, locates_simple rfl,
    locates_listOf locates_flagName, locates_listOf (locates_simple rfl), locates_simple rfl,
    locates_simple rfl, locates_simple rfl, locates_simple rfl,
    List.forall_mem_nil _⟩

theorem locates_manifest : manifest.Locates := by
  have owner : owner.Locates := by
    refine locates_record ?_
    simp only [List.forall_mem_cons]
    exact ⟨locates_simple rfl, locates_simple rfl, List.forall_mem_nil _⟩
  have flags : (Schema.rules [.kind .array, .minItems 1, .items flag]).Locates :=
    locates_rules (by simpa [Rule.Within] using locates_flag)
  have conflict : conflict.Locates :=
    locates_rules (by simpa [Rule.Within] using locates_flagName)
  refine locates_record ?_
  simp only [List.forall_mem_cons]
  exact ⟨owner, locates_listOf locates_flagName, flags, locates_listOf conflict,
    List.forall_mem_nil _⟩

end Schema

end FeatureResolution
