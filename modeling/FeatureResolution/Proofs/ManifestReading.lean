import FeatureResolution.Proofs.RequirementPattern
import FeatureResolution.Proofs.SchemaReport
import FeatureResolution.Proofs.TextLabel
import FeatureResolution.Registry.Table

/-!
# Reading what the schema accepts

Reading a table takes fields for granted: that they are there, that they are lists, texts or maps,
that texts are requirements. A plain document that keeps the schema of manifests (`Schema.Accepts`)
gives all of these, so none of the readers can fail on it, whatever the failure (`fails`): what each
reads follows from what the schema asks of the field that it reads. Only a requirement whose numbers
have too many digits is accepted and cannot be read (`ShortRequirements`).
-/

namespace FeatureResolution

open Label

variable {ν : Type} [Label ν] {fails : Error → Prop}

namespace Schema

/-! ## Accepted documents -/

/-- A plain document that keeps a schema. -/
structure Accepts (schema : Schema) (document : Document) : Prop where
  keeps : schema.Keeps document
  plain : document.Plain

namespace Accepts

variable {document : Document} {rules : List Rule} {required : List String}
  {schemas : List (String × Schema)} {key : String}

theorem holds (accepted : (Schema.rules rules).Accepts document) (rule : Rule)
    (listed : rule ∈ rules) : rule.Holds document :=
  keeps_rules_iff.1 accepted.keeps rule listed

theorem isText (accepted : (Schema.rules (.kind .string :: rules)).Accepts document) :
    document.family? = some .text := by
  have admitted := accepted.holds _ List.mem_cons_self
  simp only [Rule.Holds, Kind.admits, accepted.plain.opened] at admitted
  split at admitted <;> try contradiction
  next value _ => cases value <;> first | rfl | cases admitted

theorem isMap (accepted : (Schema.rules (.kind .object :: rules)).Accepts document) :
    ∃ fields, document = .map fields := by
  obtain ⟨fields, opened⟩ := admits_object_iff.1 (accepted.holds _ List.mem_cons_self)
  exact ⟨fields, accepted.plain.opened.symm.trans opened⟩

/-- A record is a map that has the required fields, and each field holds what its schema accepts. -/
theorem exists_fields (accepted : (record required schemas).Accepts document) :
    ∃ fields, document = .map fields ∧
      (∀ name ∈ required, ∃ value, Document.lookup (.text name) fields = some value) ∧
      ∀ part ∈ schemas, ∀ value, Document.lookup (.text part.1) fields = some value →
        part.2.Accepts value := by
  obtain ⟨keeps, plain⟩ := accepted
  obtain ⟨fields, opened, present, _, each⟩ := keeps_record_iff.1 keeps
  rw [plain.opened] at opened
  subst opened
  refine ⟨fields, rfl, present, fun part listed value found => ?_⟩
  exact ⟨each part listed value found, plain.of_lookup found⟩

theorem field?_total (accepted : (record required schemas).Accepts document) (key : String) :
    Safe fails (fun _ => True) (document.field? key) := by
  obtain ⟨fields, rfl, _⟩ := accepted.exists_fields
  trivial

/-- A field of a record is absent or holds what its schema accepts. -/
theorem field?_safe (accepted : (record required schemas).Accepts document) (schema : Schema)
    (listed : (key, schema) ∈ schemas) :
    Safe fails (fun found => ∀ value, found = some value → schema.Accepts value)
      (document.field? key) := by
  obtain ⟨fields, rfl, _, each⟩ := accepted.exists_fields
  intro value found
  exact each (key, schema) listed value found

/-- A field that a record must have holds what its schema accepts. -/
theorem field_safe (accepted : (record required schemas).Accepts document) (schema : Schema)
    (needed : key ∈ required) (listed : (key, schema) ∈ schemas) :
    Safe fails schema.Accepts (document.field key) := by
  obtain ⟨fields, rfl, present, each⟩ := accepted.exists_fields
  obtain ⟨value, found⟩ := present key needed
  simp only [Document.field, Document.opened, found]
  exact each (key, schema) listed value found

/-- The elements of a list are what the schema of the items accepts. -/
theorem elements_safe (accepted : (Schema.rules (.kind .array :: rules)).Accepts document)
    (item : Schema) (listed : .items item ∈ rules) :
    Safe fails (fun elements => document = .list elements ∧
      ∀ element ∈ elements, item.Accepts element) document.elements := by
  obtain ⟨items, opened⟩ := admits_array_iff.1 (accepted.holds _ List.mem_cons_self)
  have each := accepted.holds _ (List.mem_cons_of_mem _ listed)
  have plain := accepted.plain
  rw [Document.elements, opened]
  simp only [Rule.Holds, opened] at each
  rw [plain.opened] at opened
  subst opened
  exact ⟨rfl, fun element present => ⟨each element present, plain.of_mem present⟩⟩

end Accepts

theorem isText_of_accepts_flagName {document : Document} (accepted : flagName.Accepts document) :
    document.family? = some .text :=
  Accepts.isText accepted

theorem isText_of_accepts_someText {document : Document} (accepted : someText.Accepts document) :
    document.family? = some .text :=
  Accepts.isText accepted

/-- An accepted requirement has the form of a requirement. -/
theorem accepts_shown {document : Document} (accepted : requirement.Accepts document) :
    requirementPattern.accepts document.shown = true := by
  have form := Accepts.holds accepted (.pattern requirementPattern) (by simp)
  obtain ⟨value, text, rfl, told⟩ := Document.exists_asText (Accepts.isText accepted)
  simp only [Rule.Holds, Document.opened] at form
  cases value <;> first | exact form | cases told

end Schema

open Schema

/-! ## Names -/

variable [ReadsTexts ν] {document entry : Document} {key : String} {item : Schema}

theorem ofDocument_safe (isText : document.family? = some .text) :
    Safe fails (IsText : ν → Prop) (ofDocument document) := by
  obtain ⟨label, read, labelText⟩ := exists_ofDocument (ν := ν) isText
  rw [read]
  exact labelText

omit [Label ν] [ReadsTexts ν] in
theorem asText_safe (isText : document.family? = some .text) :
    Safe fails (fun _ => True) document.asText := by
  obtain ⟨value, text, rfl, told⟩ := Document.exists_asText isText
  rw [Document.asText, told]
  trivial

theorem names_safe (accepted : (listOf item).Accepts document)
    (texts : ∀ element, item.Accepts element → element.family? = some .text) :
    Safe fails (fun names : NameSet ν => ∀ name ∈ names.toList, IsText name) document.names := by
  refine (Accepts.elements_safe accepted item (by simp)).bind fun elements each => ?_
  have members : Safe fails (fun members : List ν => ∀ member ∈ members, IsText member)
      (elements.mapM fun element => do Label.key (← ofDocument element : ν)) := by
    refine safe_mapM fun element present => ?_
    refine (ofDocument_safe (texts element (each.2 element present))).bind fun label isText => ?_
    rw [Label.key, if_pos isText.isKey]
    exact isText
  exact members.bind fun names isText name present => isText name (NameSet.of_mem_ofList present)

namespace Flag

variable {required : List String} {schemas : List (String × Schema)}

theorem readNames_safe (accepted : (record required schemas).Accepts entry)
    (listed : (key, listOf item) ∈ schemas)
    (texts : ∀ element, item.Accepts element → element.family? = some .text) :
    Safe fails (fun names : NameSet ν => ∀ name ∈ names.toList, IsText name)
      (readNames key entry) := by
  refine (accepted.field?_safe _ listed).bind fun found each => ?_
  cases found with
  | none => exact List.forall_mem_nil _
  | some value => exact names_safe (each value rfl) texts

omit [ReadsTexts ν] in
/-- A requirement without long numbers makes a contract. -/
theorem readContract_safe (accepted : (record required schemas).Accepts entry)
    (listed : (key, Schema.requirement) ∈ schemas)
    (short : ∀ value, entry.field? key = .ok (some value) → value.family? = some .text →
      Requirement.ShortNumbers value.shown) (artifact : ν) :
    Safe fails (fun _ => True) (readContract artifact key entry) := by
  unfold readContract
  have safe : Safe fails (fun found => ∀ value, found = some value →
      Schema.requirement.Accepts value) (entry.field? key) := accepted.field?_safe _ listed
  cases found : entry.field? key with
  | error error => rw [found] at safe; exact safe
  | ok held =>
    rw [found] at safe
    cases held with
    | none => trivial
    | some value =>
      have valueAccepted := safe value rfl
      have shortValue := short value found (Accepts.isText valueAccepted)
      obtain ⟨requirement, parsed⟩ :=
        Requirement.parse_of_accepts (accepts_shown valueAccepted) shortValue
      rw [ok_bind]
      dsimp only
      split
      · rw [Contract.parse, parsed]
        trivial
      · trivial

/-- The declaration of a flag that the schema accepts is read, to a flag that calls itself and what
it implies by texts. -/
theorem read_safe (accepted : Schema.flag.Accepts entry)
    (short : ∀ key ∈ ["requirement", "dev_requirement"], ∀ value,
      entry.field? key = .ok (some value) → value.family? = some .text →
        Requirement.ShortNumbers value.shown) :
    Safe fails (fun flag : Flag ν => IsText flag.name ∧ ∀ name ∈ flag.implies.toList, IsText name)
      (read entry) := by
  have texts : ∀ element, flagName.Accepts element → element.family? = some .text :=
    fun _ => isText_of_accepts_flagName
  unfold read
  refine (Accepts.field_safe accepted flagName (by simp) (by simp)).bind fun name nameOk => ?_
  have nameText := isText_of_accepts_flagName nameOk
  refine (Accepts.field?_safe accepted someText (by simp)).bind fun named namedOk => ?_
  have artifactText : (named.getD name).family? = some .text := by
    cases named with
    | none => exact nameText
    | some value => exact isText_of_accepts_someText (namedOk value rfl)
  refine (ofDocument_safe artifactText).bind fun artifact _ => ?_
  refine (readContract_safe accepted (by simp) (short _ (by simp)) artifact).bind fun _ _ => ?_
  refine (readContract_safe accepted (by simp) (short _ (by simp)) artifact).bind fun _ _ => ?_
  refine (Accepts.field?_total accepted "default").bind fun _ _ => ?_
  refine (readNames_safe accepted (by simp) texts).bind fun implies impliesTexts => ?_
  refine (Accepts.field?_total accepted "kind").bind fun _ _ => ?_
  refine (Accepts.field?_safe accepted anyText (by simp)).bind fun described describedOk => ?_
  have description : Safe fails (fun _ => True) (described.getD (.text "")).asText := by
    cases described with
    | none => trivial
    | some value => exact asText_safe (Accepts.isText (describedOk value rfl))
  refine description.bind fun _ _ => ?_
  have provides : Safe fails _ (readNames "provides" entry : Except Error (NameSet ν)) :=
    readNames_safe accepted (by simp) fun _ => isText_of_accepts_someText
  refine provides.bind fun _ _ => ?_
  refine (Accepts.field?_safe accepted (.rules [.kind .object]) (by simp)).bind
    fun source sourceOk => ?_
  have sourceMap : Safe fails (fun _ => True) (source.getD (.map [])).asMap := by
    cases source with
    | none => trivial
    | some value =>
      obtain ⟨fields, rfl⟩ := (sourceOk value rfl).isMap
      trivial
  refine sourceMap.bind fun _ _ => ?_
  refine (ofDocument_safe nameText).bind fun label labelText => ?_
  exact ⟨labelText, impliesTexts⟩

end Flag

namespace Registry

/-! ## Tables -/

/-- No requirement in a table has a number with more digits than a number may have. -/
def ShortRequirements (table : Document) : Prop :=
  ∀ entries, readElements "flags" table = .ok entries → ∀ entry ∈ entries,
    ∀ key ∈ ["requirement", "dev_requirement"], ∀ value, entry.field? key = .ok (some value) →
      value.family? = some .text → Requirement.ShortNumbers value.shown

variable {table : Document}

theorem readArtifact_safe (accepted : manifest.Accepts table) :
    Safe fails (fun _ => True) (readArtifact table : Except Error (Option (Artifact ν))) := by
  refine (Accepts.field?_safe accepted Schema.owner (by simp)).bind fun found ownerOk => ?_
  cases found with
  | none => trivial
  | some value =>
    have accepted := ownerOk value rfl
    dsimp only
    split
    · refine (Accepts.field_safe accepted someText (by simp) (by simp)).bind fun name nameOk => ?_
      refine (Accepts.field_safe accepted (.rules [.kind .string, .pattern versionPattern])
        (by simp) (by simp)).bind fun version _ => ?_
      exact (ofDocument_safe (isText_of_accepts_someText nameOk)).bind fun _ _ => trivial
    · trivial

/-- A conflict that the schema accepts has two members. -/
theorem readPair_safe (accepted : Schema.conflict.Accepts document) :
    Safe fails (fun pair : ν × ν => IsText pair.1 ∧ IsText pair.2) (readPair document) := by
  refine (Accepts.elements_safe accepted flagName (by simp)).bind fun elements each => ?_
  obtain ⟨rfl, members⟩ := each
  have least := Accepts.holds accepted (.minItems 2) (by simp)
  have most := Accepts.holds accepted (.maxItems 2) (by simp)
  simp only [Rule.Holds, Document.opened] at least most
  obtain ⟨first, second, rfl⟩ := List.length_eq_two.1 (Nat.le_antisymm most least)
  have isText (element : Document) (present : element ∈ [first, second]) :=
    isText_of_accepts_flagName (members element present)
  refine (ofDocument_safe (isText first (by simp))).bind fun one oneText => ?_
  exact (ofDocument_safe (isText second (by simp))).bind fun two twoText => ⟨oneText, twoText⟩

theorem readElements_safe {required : List String} {schemas : List (String × Schema)}
    (accepted : (record required schemas).Accepts table) (rules : List Rule) (item : Schema)
    (listed : (key, .rules (.kind .array :: rules)) ∈ schemas) (items : .items item ∈ rules) :
    Safe fails (fun elements => ∀ element ∈ elements, item.Accepts element)
      (readElements key table) := by
  refine (accepted.field?_safe _ listed).bind fun found foundOk => ?_
  cases found with
  | none => exact List.forall_mem_nil _
  | some value =>
    have elements : Safe fails _ value.elements := (foundOk value rfl).elements_safe item items
    exact elements.mono (fun _ failed => failed) fun _ each => each.2

end Registry

end FeatureResolution
