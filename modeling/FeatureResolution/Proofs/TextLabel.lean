import FeatureResolution.Proofs.Checks

/-!
# Labels that stand for texts

A checked table calls everything by texts. Whatever the type of its labels, such labels behave as
texts do: what denotes the same as one of them is one of them (`IsText.of_same`), things can be
looked up under them (`IsText.isKey`), they have an order (`ordered_of_isText`) and they can be told
(`exists_texts`).
-/

namespace FeatureResolution

variable {ν : Type} [Label ν]

/-! ## Texts as labels -/

/-- A document of the family of texts is a text, possibly a broken one. -/
theorem Document.exists_asText {document : Document} (isText : document.family? = some .text) :
    ∃ value text, document = .scalar value ∧ value.asText? = some text := by
  cases document with
  | scalar value =>
    cases value with
    | text value => exact ⟨_, _, rfl, rfl⟩
    | brokenText codes => exact ⟨_, _, rfl, rfl⟩
    | timestamp value =>
      simp only [Document.family?, Scalar.family, Scalar.timestampFamily] at isText
      split at isText <;> [skip; split at isText] <;> cases isText
    | _ => cases isText
  | _ => cases isText

/-! ## Of all that can be named, texts are a group of their own -/

theorem Scalar.family_of_group {value : Scalar} (group : value.rank.group = 5) :
    value.family = .text := by
  cases value with
  | text _ | brokenText _ => rfl
  | decimal number =>
    match number with
    | .infinite true | .infinite false | .notNumber | .finite .. => cases group
  | timestamp moment =>
    rw [rank, timestampRank] at group
    split at group <;> cases group
  | _ => cases group

theorem Document.family_of_group {document : Document} (group : document.rank.group = 5) :
    document.family? = some .text := by
  cases document with
  | scalar value => exact congrArg some (Scalar.family_of_group group)
  | _ => cases group

theorem Document.group_rank {document : Document} (isText : document.family? = some .text) :
    document.rank.group = 5 := by
  obtain ⟨value, text, rfl, told⟩ := Document.exists_asText isText
  cases value <;> first | rfl | cases told

/-! ## Labels -/

namespace Label

/-- A label that stands for a text. -/
def IsText (label : ν) : Prop :=
  (document label).family? = some .text

/-- Every text is read as a label that stands for a text. -/
class ReadsTexts (ν : Type) [Label ν] : Prop where
  exists_read : ∀ {value : Document}, value.family? = some .text →
    ∃ label : ν, ofDocument? value = some label ∧ IsText label

instance : ReadsTexts Document where
  exists_read isText := ⟨_, rfl, isText⟩

instance : ReadsTexts String where
  exists_read isText := by
    obtain ⟨value, text, rfl, told⟩ := Document.exists_asText isText
    exact ⟨text, told, rfl⟩

theorem exists_ofDocument [ReadsTexts ν] {value : Document} (isText : value.family? = some .text) :
    ∃ label : ν, ofDocument value = .ok label ∧ IsText label := by
  obtain ⟨label, read, labelText⟩ := ReadsTexts.exists_read (ν := ν) isText
  exact ⟨label, by rw [ofDocument, read], labelText⟩

theorem isText_of_ofDocument [ReadsTexts ν] {value : Document} {label : ν}
    (isText : value.family? = some .text) (read : ofDocument value = .ok label) : IsText label := by
  obtain ⟨other, otherRead, otherText⟩ := exists_ofDocument (ν := ν) isText
  cases read.symm.trans otherRead
  exact otherText

theorem IsText.of_same {label other : ν} (isText : IsText label) (alike : same label other = true) :
    IsText other := by
  rw [same, decide_eq_true_eq] at alike
  refine Document.family_of_group ?_
  exact (congrArg Rank.group alike).symm.trans (Document.group_rank isText)

theorem shown_ofText (value : String) : shown (ofText value : ν) = value := by
  rw [shown, document_ofText]
  rfl

theorem IsText.isKey {label : ν} (isText : IsText label) : isKey label = true := by
  obtain ⟨value, text, found, _⟩ := Document.exists_asText isText
  rw [Label.isKey, found]
  rfl

theorem ordered_of_isText {labels : List ν} (texts : ∀ label ∈ labels, IsText label) :
    ordered labels = .ok labels := by
  suffices haveOrder labels = true by rw [ordered, if_pos this]
  cases labels with
  | nil => rfl
  | cons first others =>
    cases others with
    | nil => rfl
    | cons second rest =>
      obtain ⟨firstText, restTexts⟩ := List.forall_mem_cons.1 texts
      have alike : ((second :: rest).all fun label =>
          (document label).family? == (document first).family?) = true :=
        List.all_eq_true.2 fun label present => by
          rw [restTexts label present, firstText]
          rfl
      simp only [haveOrder, alike, Bool.and_true, bne_iff_ne, ne_eq]
      rw [firstText]
      decide

theorem exists_texts {labels : List ν} (allTexts : ∀ label ∈ labels, IsText label) :
    ∃ names, texts labels = .ok names := by
  unfold texts
  refine (mapM_eq_ok fun label present => ?_).imp fun _ told => told.1
  obtain ⟨value, text, found, told⟩ := Document.exists_asText (allTexts label present)
  rw [found]
  exact ⟨text, by simp only [told, Option.elim]⟩

end Label

open Label

/-! ## Sets of texts -/

namespace NameSet

theorem of_mem_insertAll {name : ν} {names : NameSet ν} {more : List ν}
    (present : name ∈ (names.insertAll more).toList) : name ∈ names.toList ∨ name ∈ more := by
  induction more generalizing names with
  | nil => exact .inl present
  | cons head rest ih =>
    have added : name ∈ ((names.insert head).insertAll rest).toList := present
    rcases ih added with before | later
    · rcases of_mem_insertAscending before with rfl | old
      · exact .inr List.mem_cons_self
      · exact .inl old
    · exact .inr (List.mem_cons_of_mem head later)

theorem of_mem_ofList {name : ν} {names : List ν} (present : name ∈ (ofList names).toList) :
    name ∈ names :=
  (of_mem_insertAll present).resolve_left List.not_mem_nil

/-- Putting a set in order changes nothing, since its members are kept in order. -/
theorem eq_of_sorted {names : NameSet ν} {order : List ν} (isSorted : names.sorted = .ok order) :
    order = names.toList := by
  unfold sorted ordered at isSorted
  split at isSorted
  · exact (Except.ok.inj isSorted).symm
  · cases isSorted

theorem forall_union {holds : ν → Prop} {first second : NameSet ν}
    (firstHolds : ∀ name ∈ first.toList, holds name)
    (secondHolds : ∀ name ∈ second.toList, holds name) :
    ∀ name ∈ (first ∪ second).toList, holds name := fun name present =>
  (of_mem_insertAll present).elim (firstHolds name) (secondHolds name)

theorem forall_filter {holds : ν → Prop} {names : NameSet ν}
    (each : ∀ name ∈ names.toList, holds name) (test : ν → Bool) :
    ∀ name ∈ (names.filter test).toList, holds name :=
  fun name present => each name (List.mem_filter.1 present).1

end NameSet

end FeatureResolution
