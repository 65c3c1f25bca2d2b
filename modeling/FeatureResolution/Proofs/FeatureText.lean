import FeatureResolution.Artifacts
import Mathlib.Data.List.Basic

/-!
# Feature lists as texts

A comma or a blank cuts a feature list in two, whatever stands around it
(`splitFeatures_append_singleton`), so a run of them does (`splitFeatures_append_gap`) and names
joined with commas are cut one by one (`splitFeatures_intercalate_eq`). Names that hold neither and
are not empty are one word each, and cutting gives them back (`splitFeatures_intercalate`), also
when other runs stand between them (`splitFeatures_joinedBy`). All that cutting takes out of a text
are commas and blanks (`join_splitFeatures`).
-/

namespace FeatureResolution

/-! ## Cutting texts -/

namespace Text

/-- The pieces of a list are those that it is split into at its separators. -/
theorem pieces_eq_splitOnP {α : Type} (isSeparator : α → Bool) (items : List α) :
    pieces isSeparator items = items.splitOnP isSeparator := by
  induction items with
  | nil => rfl
  | cons head rest ih =>
    rw [pieces, List.splitOnP_cons_eq_if_modifyHead, ih]
    split
    · rfl
    · cases more : rest.splitOnP isSeparator with
      | nil => exact absurd more (List.splitOnP_ne_nil isSeparator rest)
      | cons piece others => rfl

/-- A separator cuts a list in two, whose pieces do not touch. -/
theorem pieces_append_cons {α : Type} {isSeparator : α → Bool} {separator : α}
    (separates : isSeparator separator = true) (before rest : List α) :
    pieces isSeparator (before ++ separator :: rest) =
      pieces isSeparator before ++ pieces isSeparator rest := by
  simp only [pieces_eq_splitOnP]
  exact List.splitOnP_append_cons before rest separates

/-- A word by itself is the only piece. -/
theorem pieces_of_unbroken {α : Type} {isSeparator : α → Bool} {word : List α}
    (unbroken : ∀ item ∈ word, isSeparator item = false) : pieces isSeparator word = [word] := by
  rw [pieces_eq_splitOnP]
  exact List.splitOnP_eq_singleton unbroken

/-- The pieces are what is left when the separators are taken out. -/
theorem flatten_pieces {α : Type} (isSeparator : α → Bool) (items : List α) :
    (pieces isSeparator items).flatten = items.filter (!isSeparator ·) := by
  induction items with
  | nil => rfl
  | cons head rest ih =>
    rw [pieces]
    cases separates : isSeparator head with
    | true =>
      rw [if_pos rfl, List.filter_cons_of_neg (by simp [separates]), ← ih]
      rfl
    | false =>
      rw [if_neg Bool.false_ne_true, List.filter_cons_of_pos (by simp [separates]), ← ih]
      split
      · next none => rw [none]; rfl
      · next piece more some => rw [some]; rfl

end Text

/-! ## Commas and blanks -/

/-- Whatever stands around it, a comma or a blank cuts a feature list in two. -/
theorem splitFeatures_append_singleton {c : Char} (separates : c = ',' ∨ Text.isBlank c = true)
    (before rest : String) : splitFeatures (before ++ String.singleton c ++ rest) =
      splitFeatures before ++ splitFeatures rest := by
  have chars : (before ++ String.singleton c ++ rest).toList =
      before.toList ++ c :: rest.toList := by simp
  rw [splitFeatures, Text.words, chars, Text.pieces_append_cons (by simpa using separates),
    List.filter_append, List.map_append]
  rfl

theorem splitFeatures_append_comma (before rest : String) :
    splitFeatures (before ++ "," ++ rest) = splitFeatures before ++ splitFeatures rest := by
  have comma : "," = String.singleton ',' := by decide
  rw [comma]
  exact splitFeatures_append_singleton (.inl rfl) before rest

theorem splitFeatures_gap_append_ofList {chars : List Char}
    (isGap : ∀ c ∈ chars, c = ',' ∨ Text.isBlank c = true) (text : String) :
    splitFeatures (String.ofList chars ++ text) = splitFeatures text := by
  induction chars with
  | nil => rw [String.ofList_nil, String.empty_append]
  | cons c rest ih =>
    obtain ⟨separates, restGap⟩ := List.forall_mem_cons.1 isGap
    have cut := splitFeatures_append_singleton separates "" (String.ofList rest ++ text)
    rw [String.empty_append, ih restGap] at cut
    rw [String.ofList_cons, String.append_assoc, cut]
    rfl

/-- A run of commas and blanks. -/
def IsGap (text : String) : Prop :=
  ∀ c ∈ text.toList, c = ',' ∨ Text.isBlank c = true

instance (text : String) : Decidable (IsGap text) :=
  List.decidableBAll _ _

variable {gap : String}

/-- A run of commas and blanks in front does not count. -/
theorem splitFeatures_gap_append (isGap : IsGap gap) (text : String) :
    splitFeatures (gap ++ text) = splitFeatures text := by
  rw [← splitFeatures_gap_append_ofList isGap text, String.ofList_toList]

/-- A run of commas and blanks that is not empty cuts a feature list in two. -/
theorem splitFeatures_append_gap (isGap : IsGap gap) (nonempty : gap ≠ "")
    (before rest : String) :
    splitFeatures (before ++ gap ++ rest) = splitFeatures before ++ splitFeatures rest := by
  obtain ⟨c, more, chars⟩ := List.exists_cons_of_ne_nil (String.toList_eq_nil_iff.not.2 nonempty)
  have first : gap = String.singleton c ++ String.ofList more := by
    rw [← String.ofList_cons, ← chars, String.ofList_toList]
  unfold IsGap at isGap
  rw [chars] at isGap
  obtain ⟨separates, moreGap⟩ := List.forall_mem_cons.1 isGap
  have regrouped : before ++ gap ++ rest =
      before ++ String.singleton c ++ (String.ofList more ++ rest) := by
    simp only [first, String.append_assoc]
  rw [regrouped, splitFeatures_append_singleton separates, splitFeatures_gap_append_ofList moreGap]

/-- A run of commas and blanks at the end does not count. -/
theorem splitFeatures_append_gap_end (isGap : IsGap gap) (text : String) :
    splitFeatures (text ++ gap) = splitFeatures text := by
  by_cases nonempty : gap = ""
  · rw [nonempty, String.append_empty]
  · have cut := splitFeatures_append_gap isGap nonempty text ""
    rw [String.append_empty] at cut
    rw [cut]
    exact List.append_nil _

/-! ## Names in feature lists -/

/-- A name that stands in a feature list as one word. -/
def PlainFeature (name : String) : Prop :=
  name ≠ "" ∧ ∀ c ∈ name.toList, c ≠ ',' ∧ Text.isBlank c = false

instance (name : String) : Decidable (PlainFeature name) :=
  @instDecidableAnd _ _ inferInstance (List.decidableBAll _ _)

theorem PlainFeature.splitFeatures_eq {name : String} (plain : PlainFeature name) :
    splitFeatures name = [name] := by
  have unbroken : ∀ c ∈ name.toList, (c == ',' || Text.isBlank c) = false := by
    simpa using plain.2
  rw [splitFeatures, Text.words, Text.pieces_of_unbroken unbroken,
    List.filter_cons_of_pos (by simpa using plain.1)]
  simp

/-- A blank at the end of a plain name does not count. -/
theorem PlainFeature.splitFeatures_blank {name : String} (plain : PlainFeature name) {c : Char}
    (blank : Text.isBlank c = true) :
    splitFeatures (String.ofList (name.toList ++ [c])) = [name] := by
  have isGap : IsGap (String.singleton c) := by simp [IsGap, blank]
  have whole : String.ofList (name.toList ++ [c]) = name ++ String.singleton c := by simp
  rw [whole, splitFeatures_append_gap_end isGap, plain.splitFeatures_eq]

/-- Names joined with commas are cut one by one. -/
theorem splitFeatures_intercalate_eq (names : List String) :
    splitFeatures (String.intercalate "," names) = names.flatMap splitFeatures := by
  induction names with
  | nil => rfl
  | cons name rest ih =>
    cases rest with
    | nil => rw [String.intercalate_singleton, List.flatMap_singleton]
    | cons next more =>
      rw [String.intercalate_cons_cons, splitFeatures_append_comma, ih]
      rfl

/-- Names that are one word each can be joined with commas. -/
theorem splitFeatures_intercalate_of_word {names : List String} {word : String → String}
    (cut : ∀ name ∈ names, splitFeatures name = [word name]) :
    splitFeatures (String.intercalate "," names) = names.map word := by
  rw [splitFeatures_intercalate_eq, List.flatMap_congr cut]
  exact List.flatMap_pure_eq_map word names

/-- Plain names joined with commas are the names in the feature list that they make up. -/
theorem splitFeatures_intercalate {names : List String}
    (plain : ∀ name ∈ names, PlainFeature name) :
    splitFeatures (String.intercalate "," names) = names := by
  rw [splitFeatures_intercalate_of_word fun name present => (plain name present).splitFeatures_eq,
    List.map_id']

/-! ## Results -/

/-- Names written one after the other, with the given separators between them. -/
def joinedBy : (separators names : List String) → String
  | [], names => String.join names
  | _, [] => ""
  | separator :: others, name :: rest => name ++ separator ++ joinedBy others rest

theorem splitFeatures_joinedBy {separators names : List String}
    (fits : separators.length = names.length - 1)
    (gaps : ∀ separator ∈ separators, IsGap separator ∧ separator ≠ "")
    (plain : ∀ name ∈ names, PlainFeature name) :
    splitFeatures (joinedBy separators names) = names := by
  induction separators generalizing names with
  | nil =>
    cases names with
    | nil => rfl
    | cons name rest =>
      cases List.length_eq_zero_iff.1 fits.symm
      obtain ⟨namePlain, _⟩ := List.forall_mem_cons.1 plain
      rw [joinedBy, String.join_cons]
      exact (congrArg _ String.append_empty).trans namePlain.splitFeatures_eq
  | cons separator others ih =>
    cases names with
    | nil => cases fits
    | cons name rest =>
      obtain ⟨⟨isGap, nonempty⟩, othersGaps⟩ := List.forall_mem_cons.1 gaps
      obtain ⟨namePlain, restPlain⟩ := List.forall_mem_cons.1 plain
      have restFits : others.length = rest.length - 1 := by
        simp only [List.length_cons] at fits
        omega
      rw [joinedBy, splitFeatures_append_gap isGap nonempty, namePlain.splitFeatures_eq,
        ih restFits othersGaps restPlain, List.singleton_append]

/-- Cutting a feature list takes out the commas and blanks and nothing else. -/
theorem join_splitFeatures (text : String) : String.join (splitFeatures text) =
    String.ofList (text.toList.filter fun c => !(c == ',' || Text.isBlank c)) := by
  have whole : (String.join (splitFeatures text)).toList =
      ((Text.pieces (fun c => c == ',' || Text.isBlank c) text.toList).filter
        (!·.isEmpty)).flatten := by
    rw [splitFeatures, Text.words, String.toList_join, List.flatMap_map]
    simp only [String.toList_ofList, List.flatMap_id']
  rw [← String.toList_inj, whole, List.flatten_filter_not_isEmpty, Text.flatten_pieces,
    String.toList_ofList]

theorem plain_of_mem_splitFeatures {text name : String} (present : name ∈ splitFeatures text) :
    PlainFeature name := by
  obtain ⟨piece, kept, rfl⟩ := List.mem_map.1 present
  obtain ⟨isPiece, nonempty⟩ := List.mem_filter.1 kept
  constructor
  · simpa using nonempty
  · intro c inPiece
    have remains := List.mem_flatten_of_mem isPiece (String.toList_ofList ▸ inPiece)
    rw [Text.flatten_pieces] at remains
    simpa using (List.mem_filter.1 remains).2

/-- The names in a feature list are plain, and nothing is lost but commas and blanks. Plain names
with runs of commas and blanks between them and around them are the names in the feature list that
they make up. Two feature lists with a comma between them list the names of the first and then those
of the second. -/
theorem splitFeatures_laws :
    (∀ text, (∀ name ∈ splitFeatures text, PlainFeature name) ∧
      String.join (splitFeatures text) =
        String.ofList (text.toList.filter fun c => !(c == ',' || Text.isBlank c))) ∧
    (∀ (names separators : List String) (before after : String),
      (∀ name ∈ names, PlainFeature name) → separators.length = names.length - 1 →
      (∀ separator ∈ separators, IsGap separator ∧ separator ≠ "") →
      IsGap before → IsGap after →
        splitFeatures (before ++ joinedBy separators names ++ after) = names) ∧
    ∀ first second, splitFeatures (first ++ "," ++ second) =
      splitFeatures first ++ splitFeatures second := by
  refine ⟨fun text => ⟨fun name => plain_of_mem_splitFeatures, join_splitFeatures text⟩,
    fun names separators before after plain fits gaps beforeGap afterGap => ?_,
    splitFeatures_append_comma⟩
  rw [splitFeatures_append_gap_end afterGap, splitFeatures_gap_append beforeGap,
    splitFeatures_joinedBy fits gaps plain]

/-- A feature list with a blank in front, three kinds of separators and a comma at the end. -/
theorem splitFeatures_laws_mixed :
    splitFeatures " derive, rc\tstd," = ["derive", "rc", "std"] := by
  have whole : " derive, rc\tstd," =
      " " ++ joinedBy [", ", "\t"] ["derive", "rc", "std"] ++ "," := by decide
  rw [whole]
  exact splitFeatures_laws.2.1 ["derive", "rc", "std"] [", ", "\t"] " " "," (by decide) rfl
    (by decide) (by decide) (by decide)

end FeatureResolution
