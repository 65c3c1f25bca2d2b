import FeatureResolution.Proofs.Pattern
import FeatureResolution.Proofs.RequirementText
import FeatureResolution.Schema.Manifest

/-!
# What the schema accepts as a requirement can be read

The pattern of versions in the schema of manifests denotes the texts that are made up of the parts
of a version with ASCII digits (`mem_versionPattern_iff`), and the pattern of requirements such a
version after a sign, or none, and blanks (`mem_requirementPattern_iff`). So the schema accepts the
texts that spell a requirement (`Requirement.accepts_iff_spells`). Trimming such a text and taking
its sign off leaves the version (`Spells.split_eq`), so to read the text is to read its numbers
(`Spells.parse_eq`), and it can be read unless one of them has too many digits
(`Requirement.parse_of_accepts`).
-/

namespace FeatureResolution

open Pattern

namespace Schema

variable {chars : List Char}

theorem covers_digitClass (c : Char) :
    [ClassItem.range '0' '9'].any (·.covers c) = c.isDigit := by
  simp [ClassItem.covers, Char.isDigit, Char.le_def]

theorem covers_suffixClass (c : Char) :
    [ClassItem.range '0' '9', .range 'A' 'Z', .range 'a' 'z', .single '.', .single '+',
      .single '-'].any (·.covers c) = Version.isSuffixChar c := by
  rw [Bool.eq_iff_iff, Version.isSuffixChar]
  delta Char.isAlphanum Char.isAlpha Char.isUpper Char.isLower Char.isDigit
  simp [ClassItem.covers, Char.le_def]
  tauto

/-! ## Versions -/

theorem mem_digits_iff :
    chars ∈ (nonempty digitClass).language ↔ chars ≠ [] ∧ ∀ c ∈ chars, c.isDigit = true := by
  rw [digitClass, mem_nonempty_oneOf_iff]
  simp only [covers_digitClass]

/-- A pattern in parentheses denotes what it denotes without them. -/
theorem mem_dottedDigits_iff :
    chars ∈ (group (.next (.literal '.') (.nonempty digitClass))).language ↔
      ∃ digits, digits ≠ [] ∧ (∀ c ∈ digits, c.isDigit = true) ∧ chars = Version.dotted digits := by
  rw [show (group (.next (.literal '.') (.nonempty digitClass))).language =
    (next (.literal '.') (.nonempty digitClass)).language from rfl, mem_next_iff]
  simp only [mem_literal_iff, mem_digits_iff]
  constructor
  · rintro ⟨_, rfl, digits, ⟨notEmpty, allDigits⟩, rfl⟩
    exact ⟨digits, notEmpty, allDigits, (Version.dotted_of_ne_nil notEmpty).symm⟩
  · rintro ⟨digits, notEmpty, allDigits, rfl⟩
    exact ⟨['.'], rfl, digits, ⟨notEmpty, allDigits⟩, (Version.dotted_of_ne_nil notEmpty).symm⟩

/-- The minor and the patch number. -/
theorem mem_dottedRuns_iff :
    chars ∈ (upTo (.group (.next (.literal '.') (.nonempty digitClass))) 2).language ↔
      ∃ minor patch, (∀ c ∈ minor, c.isDigit = true) ∧ (∀ c ∈ patch, c.isDigit = true) ∧
        (minor = [] → patch = []) ∧ chars = Version.dotted minor ++ Version.dotted patch := by
  rw [mem_upTo_succ_iff]
  simp only [mem_upTo_succ_iff, mem_upTo_zero_iff, mem_dottedDigits_iff]
  constructor
  · rintro (rfl | ⟨_, ⟨minor, notEmpty, minorDigits, rfl⟩, _, rest, rfl⟩)
    · exact ⟨[], [], nofun, nofun, fun _ => rfl, rfl⟩
    · rcases rest with rfl | ⟨_, ⟨patch, _, patchDigits, rfl⟩, _, rfl, rfl⟩
      · exact ⟨minor, [], minorDigits, nofun, fun _ => rfl, rfl⟩
      · refine ⟨minor, patch, minorDigits, patchDigits, fun none => absurd none notEmpty, ?_⟩
        rw [List.append_nil]
  · rintro ⟨minor, patch, minorDigits, patchDigits, inOrder, rfl⟩
    by_cases noMinor : minor = []
    · rw [inOrder noMinor, noMinor]
      exact .inl rfl
    · refine .inr ⟨_, ⟨minor, noMinor, minorDigits, rfl⟩, Version.dotted patch, ?_, rfl⟩
      by_cases noPatch : patch = []
      · rw [noPatch]
        exact .inl rfl
      · exact .inr ⟨_, ⟨patch, noPatch, patchDigits, rfl⟩, [], rfl, List.append_nil _⟩

theorem mem_suffix_iff :
    chars ∈ (optional (.group (.next (.oneOf [.single '-', .single '+'])
      (.repeated (.oneOf [.range '0' '9', .range 'A' 'Z', .range 'a' 'z', .single '.',
        .single '+', .single '-']))))).language ↔ Version.isSuffix chars = true := by
  rw [mem_optional_iff, show ∀ body : Pattern, (group body).language = body.language from
    fun _ => rfl, mem_next_iff]
  simp only [mem_oneOf_iff, mem_repeated_oneOf_iff, covers_suffixClass]
  cases chars with
  | nil => simp [Version.isSuffix]
  | cons head rest =>
    rw [Version.isSuffix, Bool.and_eq_true, List.all_eq_true]
    constructor
    · rintro (⟨⟨⟩⟩ | ⟨_, ⟨sign, isSign, rfl⟩, after, allowed, whole⟩)
      obtain ⟨rfl, rfl⟩ := List.cons.inj whole
      exact ⟨by simpa [ClassItem.covers] using isSign, allowed⟩
    · rintro ⟨isSign, allowed⟩
      exact .inr ⟨[head], ⟨head, by simpa [ClassItem.covers] using isSign, rfl⟩, rest, allowed, rfl⟩

/-- The pattern of versions denotes the texts with the parts of a version, in ASCII digits. -/
theorem mem_versionPattern_iff :
    chars ∈ versionPattern.language ↔
      ∃ major minor patch suffix, Version.Parts Char.isDigit chars major minor patch suffix := by
  rw [versionPattern, versionTail, mem_next_iff]
  simp only [mem_next_iff, mem_digits_iff, mem_dottedRuns_iff, mem_suffix_iff]
  constructor
  · rintro ⟨major, ⟨notEmpty, majorDigits⟩, _,
      ⟨_, ⟨minor, patch, minorDigits, patchDigits, inOrder, rfl⟩, suffix, ends, rfl⟩, rfl⟩
    exact ⟨major, minor, patch, suffix, {
      whole := by simp only [List.append_assoc]
      nonempty := notEmpty
      majorDigits, minorDigits, patchDigits, inOrder, ends }⟩
  · rintro ⟨major, minor, patch, suffix, parts⟩
    refine ⟨major, ⟨parts.nonempty, parts.majorDigits⟩, _, ⟨_, ⟨minor, patch, parts.minorDigits,
      parts.patchDigits, parts.inOrder, rfl⟩, suffix, parts.ends, rfl⟩, ?_⟩
    rw [parts.whole, List.append_assoc]

/-! ## Requirements -/

/-- The pattern of requirements denotes a version after a sign, or none, and blanks. -/
theorem mem_requirementPattern_iff :
    chars ∈ requirementPattern.language ↔ ∃ sign blanks version,
      (sign = [] ∨ sign = ['='] ∨ sign = ['^']) ∧ (∀ c ∈ blanks, Text.isBlank c = true) ∧
        version ∈ versionPattern.language ∧ chars = sign ++ (blanks ++ version) := by
  rw [requirementPattern, ← versionPattern, mem_next_iff]
  simp only [mem_optional_iff, mem_oneOf_iff, mem_next_iff, mem_repeated_blank_iff]
  have signs (sign : List Char) :
      (∃ c, [ClassItem.single '=', .single '^'].any (·.covers c) = true ∧ sign = [c]) ↔
        sign = ['='] ∨ sign = ['^'] := by
    simp [ClassItem.covers, or_and_right, exists_or]
  simp only [signs]
  constructor
  · rintro ⟨sign, isSign, _, ⟨blanks, blank, version, isVersion, rfl⟩, rfl⟩
    exact ⟨sign, blanks, version, isSign, blank, isVersion, rfl⟩
  · rintro ⟨sign, blanks, version, isSign, blank, isVersion, rfl⟩
    exact ⟨sign, isSign, _, ⟨blanks, blank, version, isVersion, rfl⟩, rfl⟩

end Schema

/-! ## Reading -/

namespace Requirement

/-- A text spells a requirement: a sign or none, blanks, a version with these numbers in ASCII
digits, and at most a line break after it. -/
structure Spells (text : String) (sign version major minor patch : List Char) : Prop where
  isSign : sign = [] ∨ sign = ['='] ∨ sign = ['^']
  parts : ∃ suffix, Version.Parts Char.isDigit version major minor patch suffix
  whole : ∃ blanks ending, (∀ c ∈ blanks, Text.isBlank c = true) ∧
    (ending = [] ∨ ending = ['\n']) ∧ text.toList = sign ++ (blanks ++ version) ++ ending

variable {text : String} {sign version major minor patch : List Char}

/-- The schema accepts the texts that spell a requirement. -/
theorem accepts_iff_spells : Schema.requirementPattern.accepts text = true ↔
    ∃ sign version major minor patch, Spells text sign version major minor patch := by
  rw [accepts_iff, Schema.mem_requirementPattern_iff, Schema.mem_requirementPattern_iff]
  simp only [Schema.mem_versionPattern_iff]
  constructor
  · rintro (⟨sign, blanks, version, isSign, blank, ⟨major, minor, patch, parts⟩, whole⟩ |
      ⟨sign, blanks, version, isSign, blank, ⟨major, minor, patch, parts⟩, whole⟩)
    · exact ⟨sign, version, major, minor, patch, isSign, parts, blanks, [], blank, .inl rfl,
        whole.trans (List.append_nil _).symm⟩
    · refine ⟨sign, version, major, minor, patch, isSign, parts, ?_⟩
      unfold withoutLineBreak at whole
      split at whole
      · next ended =>
        refine ⟨blanks, ['\n'], blank, .inr rfl, ?_⟩
        rw [← whole, List.dropLast_append_getLast? _ ended]
      · exact ⟨blanks, [], blank, .inl rfl, whole.trans (List.append_nil _).symm⟩
  · rintro ⟨sign, version, major, minor, patch, isSign, parts, blanks, ending, blank, ends, whole⟩
    rcases ends with rfl | rfl
    · exact .inl ⟨sign, blanks, version, isSign, blank, ⟨major, minor, patch, parts⟩,
        whole.trans (List.append_nil _)⟩
    · refine .inr ⟨sign, blanks, version, isSign, blank, ⟨major, minor, patch, parts⟩, ?_⟩
      rw [withoutLineBreak, whole, List.getLast?_concat, if_pos rfl, List.dropLast_concat]

theorem Spells.signs (spells : Spells text sign version major minor patch) :
    Signs (if sign = ['='] then .exact else .compatible) sign := by
  rcases spells.isSign with rfl | rfl | rfl
  · rw [if_neg (by simp)]
    exact .bare
  · rw [if_pos rfl]
    exact .exact
  · rw [if_neg (by simp)]
    exact .caret

theorem Spells.exists_parts (spells : Spells text sign version major minor patch) :
    ∃ suffix, Version.Parts Text.isDigit version major minor patch suffix := by
  obtain ⟨suffix, parts⟩ := spells.parts
  exact ⟨suffix, parts.imp fun _ _ => Text.isDigit_of_ascii⟩

/-- A line break at the end, with which a requirement is accepted too, does not count. -/
theorem Spells.split_eq (spells : Spells text sign version major minor patch) :
    split (Text.trimChars text.toList) =
      (if sign = ['='] then .exact else .compatible, version) := by
  obtain ⟨blanks, ending, blank, ends, whole⟩ := spells.whole
  obtain ⟨suffix, parts⟩ := spells.exists_parts
  have endsBlank : ∀ c ∈ ending, Text.isBlank c = true := by
    rcases ends with rfl | rfl
    · exact List.forall_mem_nil _
    · simpa using show Text.isBlank '\n' = true by decide
  rw [whole, Text.trimChars_append_right endsBlank, split_of_signs spells.signs blank parts]

/-- The numbers are the runs of digits of the version. -/
theorem Spells.runs?_eq (spells : Spells text sign version major minor patch) :
    Version.runs? (Text.trimChars version) = some (major, minor, patch) := by
  obtain ⟨suffix, parts⟩ := spells.exists_parts
  rw [Text.trimChars_of_unblank (parts.unblank fun _ => Text.isBlank_of_isDigit)]
  exact Version.runs?_of_parts parts

/-- A requirement is read by reading its numbers. -/
theorem Spells.parse_eq (spells : Spells text sign version major minor patch) :
    parse text = do
      let _ ← Version.numeral major
      let _ ← Version.numeral minor
      let _ ← Version.numeral patch
      return ⟨String.ofList version, if sign = ['='] then .exact else .compatible⟩ := by
  simp only [parse, spells.split_eq, Version.parse, String.toList_ofList, spells.runs?_eq,
    bind_assoc, pure_bind]

/-- A requirement whose numbers are not too long is read as the version it spells. -/
theorem Spells.parse_short (spells : Spells text sign version major minor patch)
    (short : ∀ digits ∈ [major, minor, patch], digits.length ≤ Text.digitLimit) :
    parse text = .ok ⟨String.ofList version, if sign = ['='] then .exact else .compatible⟩ := by
  have read {run : List Char} (listed : run ∈ [major, minor, patch]) :
      Version.numeral run = .ok (Text.numeralValue run) :=
    Version.numeral_eq_ok_iff.2 ⟨short run listed, rfl⟩
  rw [spells.parse_eq, read (by simp), read (by simp), read (by simp)]
  rfl

/-- The runs of digits of the version in a requirement text. -/
def runs? (text : String) : Option (List Char × List Char × List Char) :=
  Version.runs? (Text.trimChars (split (Text.trimChars text.toList)).2)

/-- No number in a requirement text has more digits than a number may have. -/
def ShortNumbers (text : String) : Prop :=
  ∀ major minor patch, runs? text = some (major, minor, patch) →
    ∀ digits ∈ [major, minor, patch], digits.length ≤ Text.digitLimit

theorem Spells.runs?_text (spells : Spells text sign version major minor patch) :
    Requirement.runs? text = some (major, minor, patch) := by
  rw [Requirement.runs?, spells.split_eq, spells.runs?_eq]

/-- What the schema accepts as a requirement can be read. -/
theorem parse_of_accepts (accepted : Schema.requirementPattern.accepts text = true)
    (short : ShortNumbers text) : ∃ requirement, parse text = .ok requirement := by
  obtain ⟨sign, version, major, minor, patch, spells⟩ := accepts_iff_spells.1 accepted
  exact ⟨_, spells.parse_short (short major minor patch spells.runs?_text)⟩

end Requirement

end FeatureResolution
