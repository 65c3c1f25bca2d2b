import FeatureResolution.Proofs.Checks
import FeatureResolution.Schema.Manifest

/-!
# Documents that keep a schema

A document keeps a schema when nothing in it breaks a rule. What each rule asks of a document is
said by `Rule.Holds`, and a document keeps a list of rules when all of them hold
(`Schema.keeps_rules_iff`). From this follows what the parts of the shipped schemas accept: a record
(`keeps_record_iff`), a list (`keeps_listOf_iff`), texts (`keeps_anyText`, `keeps_someText_iff`).
-/

namespace FeatureResolution

/-- Nothing in a document breaks a rule of a schema. -/
def Schema.Keeps (schema : Schema) (document : Document) : Prop :=
  schema.violations document = []

/-- What a rule asks of a document; of a document of another kind it asks nothing. -/
def Rule.Holds (rule : Rule) (document : Document) : Prop :=
  match rule, document.opened with
  | .kind expected, _ => expected.admits document = true
  | .required names, .map entries =>
    ∀ name ∈ names, ∃ value, Document.lookup (.text name) entries = some value
  | .closed names, .map entries =>
    ∀ entry ∈ entries, ∃ name ∈ names, entry.1.same (.text name) = true
  | .eachField schema, .map entries => ∀ entry ∈ entries, schema.Keeps entry.2
  | .fields schemas, .map entries => ∀ part ∈ schemas, ∀ value,
    Document.lookup (.text part.1) entries = some value → part.2.Keeps value
  | .items schema, .list elements => ∀ element ∈ elements, schema.Keeps element
  | .minItems least, .list elements => least ≤ elements.length
  | .maxItems most, .list elements => elements.length ≤ most
  | .minLength least, .text value => least ≤ value.length
  | .minLength least, .scalar (.brokenText codes) => least ≤ codes.length
  | .pattern form, .text value => form.accepts value = true
  | .pattern form, .scalar (.brokenText codes) => form.accepts (Text.ofCodes codes) = true
  | .oneOf names, shape => ∃ name ∈ names, shape = .text name
  | .notText name, shape => shape ≠ .text name
  | _, _ => True

/-! ## Rules -/

/-- No field has a name outside a list of names. -/
theorem extraNames_eq_nil_iff {names : List String} {fields : List (Scalar × Document)} :
    extraNames names fields = [] ↔
      ∀ field ∈ fields, ∃ name ∈ names, field.1.same (.text name) = true := by
  have sorted := Text.perm_sortedBy Scalar.shown
    ((fields.map (·.1)).filter fun name => !names.any fun known => name.same (.text known))
  rw [extraNames, ← List.length_eq_zero_iff, sorted.length_eq, List.length_eq_zero_iff]
  simp

theorem fieldsViolations_eq_nil_iff {schemas : List (String × Schema)}
    {fields : List (Scalar × Document)} :
    fieldsViolations schemas fields = [] ↔ ∀ part ∈ schemas, ∀ value,
      Document.lookup (.text part.1) fields = some value → part.2.Keeps value := by
  induction schemas with
  | nil => simp [fieldsViolations]
  | cons part rest ih =>
    obtain ⟨name, schema⟩ := part
    rw [fieldsViolations, List.append_eq_nil_iff, ih, List.forall_mem_cons]
    refine and_congr_left fun _ => ?_
    cases Document.lookup (.text name) fields <;> simp [Schema.Keeps]

theorem itemsViolations_eq_nil_iff {schema : Schema} {items : List Document} :
    (items.zipIdx.flatMap fun (item, index) =>
      (schema.violations item).map (·.under (.item index))) = [] ↔
      ∀ item ∈ items, schema.Keeps item := by
  rw [← List.zipIdx_map_fst 0 items, List.forall_mem_map]
  simp [Schema.Keeps]

theorem missingFields_eq_nil_iff {names : List String} {fields : List (Scalar × Document)} :
    (names.filter fun name => (Document.lookup (.text name) fields).isNone) = [] ↔
      ∀ name ∈ names, ∃ value, Document.lookup (.text name) fields = some value := by
  simp [Option.ne_none_iff_exists']

/-- A rule is not broken when what it asks holds. -/
theorem ruleViolations_eq_nil_iff {rule : Rule} {fits : Bool} {document : Document} :
    ruleViolations rule fits document = [] ↔ rule.Holds document := by
  rw [ruleViolations.eq_def]
  unfold Rule.Holds
  -- The cases come in the order of the rules.
  split <;> simp only [*]
  case h_2 => rw [List.map_eq_nil_iff, missingFields_eq_nil_iff]
  case h_3 names fields _ =>
    rw [← extraNames_eq_nil_iff]
    cases extraNames names fields <;> simp
  case h_5 => exact fieldsViolations_eq_nil_iff
  case h_6 => exact itemsViolations_eq_nil_iff
  all_goals simp [Schema.Keeps]

theorem rulesViolations_eq_nil_iff {rules : List Rule} {fits : Bool} {document : Document} :
    rulesViolations rules fits document = [] ↔ ∀ rule ∈ rules, rule.Holds document := by
  induction rules with
  | nil => simp [rulesViolations]
  | cons rule rest ih =>
    rw [rulesViolations, List.append_eq_nil_iff, ih, ruleViolations_eq_nil_iff,
      List.forall_mem_cons]

namespace Schema

variable {document : Document}

theorem keeps_rules_iff {rules : List Rule} :
    (Schema.rules rules).Keeps document ↔ ∀ rule ∈ rules, rule.Holds document := by
  rw [Keeps, violations, rulesViolations_eq_nil_iff]

theorem check_eq_ok_none_iff {schema : Schema} :
    schema.check document = .ok none ↔ schema.Keeps document := by
  unfold check Keeps
  split
  · next none => simp [none]
  · next first rest some =>
    simp only [some, reduceCtorEq, iff_false]
    intro passed
    obtain ⟨best, _, later⟩ := bind_eq_ok_iff.1 passed
    obtain ⟨_, _, ⟨⟩⟩ := bind_eq_ok_iff.1 later

/-! ## Parts of schemas -/

theorem admits_object_iff :
    Kind.object.admits document = true ↔ ∃ fields, document.opened = .map fields := by
  unfold Kind.admits
  cases document.opened <;> simp

theorem admits_array_iff :
    Kind.array.admits document = true ↔ ∃ items, document.opened = .list items := by
  unfold Kind.admits
  cases document.opened <;> simp

/-- A record is a map with the required fields and no others than those listed, whose values keep
their schemas. -/
theorem keeps_record_iff {required : List String} {schemas : List (String × Schema)} :
    (record required schemas).Keeps document ↔ ∃ fields, document.opened = .map fields ∧
      (∀ name ∈ required, ∃ value, Document.lookup (.text name) fields = some value) ∧
      (∀ field ∈ fields, ∃ part ∈ schemas, field.1.same (.text part.1) = true) ∧
      ∀ part ∈ schemas, ∀ value, Document.lookup (.text part.1) fields = some value →
        part.2.Keeps value := by
  rw [record, keeps_rules_iff]
  simp only [List.forall_mem_cons, Rule.Holds, admits_object_iff]
  constructor
  · rintro ⟨⟨fields, opened⟩, rest⟩
    exact ⟨fields, opened, by simpa [opened] using rest⟩
  · rintro ⟨fields, opened, rest⟩
    exact ⟨⟨fields, opened⟩, by simpa [opened] using rest⟩

theorem keeps_listOf_iff {item : Schema} :
    (listOf item).Keeps document ↔
      ∃ items, document.opened = .list items ∧ ∀ element ∈ items, item.Keeps element := by
  rw [listOf, keeps_rules_iff]
  simp only [List.forall_mem_cons, Rule.Holds, admits_array_iff]
  constructor
  · rintro ⟨⟨items, opened⟩, rest⟩
    exact ⟨items, opened, by simpa [opened] using rest⟩
  · rintro ⟨items, opened, rest⟩
    exact ⟨⟨items, opened⟩, by simpa [opened] using rest⟩

@[simp] theorem keeps_anyText (value : String) : anyText.Keeps (.text value) := by
  simp [anyText, keeps_rules_iff, Rule.Holds, Kind.admits, Document.opened, Scalar.asText?]

@[simp] theorem keeps_someText_iff {value : String} :
    someText.Keeps (.text value) ↔ value ≠ "" := by
  simp [someText, keeps_rules_iff, Rule.Holds, Kind.admits, Document.opened, Scalar.asText?,
    Nat.one_le_iff_ne_zero]

end Schema

end FeatureResolution
