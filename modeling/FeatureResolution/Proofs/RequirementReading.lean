import FeatureResolution.Proofs.RequirementPattern

/-!
# The schema and the reader agree on requirements

The schema checks a requirement by a pattern, the reader by trimming the text, taking its sign off
and cutting the rest into runs of digits. Both accept the texts that spell a requirement
(`Requirement.Spells`): what the pattern accepts spells one (`accepts_iff_spells`), and so does what
can be read, where the text is trimmed and has no digits of other scripts (`spells_of_parse`).

* Reading what the pattern accepts finds the version it spells and an exact pin exactly at the sign
  `=`, and fails only at a number with too many digits (`parse_agrees`).
* Of the trimmed texts with ASCII digits, the pattern accepts all that can be read.
-/

namespace FeatureResolution

namespace Requirement

variable {text : String} {sign version major minor patch : List Char}

/-! ## What can be read -/

/-- A trimmed text without digits of other scripts spells a requirement if it can be read. -/
theorem spells_of_parse {requirement : Requirement} (trimmed : Text.trim text = text)
    (ascii : ∀ c ∈ text.toList, Text.isDigit c = true → c.isDigit = true)
    (read : parse text = .ok requirement) :
    ∃ sign version major minor patch, Spells text sign version major minor patch := by
  have trimmedChars : Text.trimChars text.toList = text.toList := by
    rw [← String.toList_inj, Text.trim, String.toList_ofList] at trimmed
    exact trimmed
  obtain ⟨sign, blanks, signs, blank, whole, again⟩ := split_sound trimmedChars
  cases found : Version.runs? (split text.toList).2 with
  | none =>
    simp only [parse, trimmedChars, Version.parse, String.toList_ofList, again, found] at read
    cases read
  | some runs =>
    obtain ⟨major, minor, patch⟩ := runs
    obtain ⟨suffix, parts⟩ := Version.runs?_eq_some_iff.1 found
    refine ⟨sign, _, major, minor, patch, signs.isSign, ⟨suffix, parts.imp fun c present => ?_⟩,
      blanks, [], blank, .inl rfl, whole.trans (List.append_nil _).symm⟩
    refine ascii c ?_
    rw [whole]
    simp [present]

/-! ## What the pattern accepts -/

/-- The sign of an exact pin is the first character of its text. -/
theorem Spells.head?_eq_iff (spells : Spells text sign version major minor patch) :
    text.toList.head? = some '=' ↔ sign = ['='] := by
  obtain ⟨blanks, ending, blank, _, whole⟩ := spells.whole
  rcases spells.isSign with rfl | rfl | rfl
  · -- Without a sign the text begins with a blank or with a digit.
    rw [whole, List.nil_append]
    cases blanks with
    | nil =>
      obtain ⟨suffix, parts⟩ := spells.parts
      cases major with
      | nil => exact absurd rfl parts.nonempty
      | cons first rest =>
        have digit := parts.majorDigits first List.mem_cons_self
        rw [parts.whole]
        refine iff_of_false (fun head => ?_) nofun
        cases Option.some.inj head
        cases digit
    | cons first rest =>
      have isBlank := blank first List.mem_cons_self
      refine iff_of_false (fun head => ?_) nofun
      cases Option.some.inj head
      exact absurd isBlank (by decide)
  · rw [whole]
    exact iff_of_true rfl rfl
  · rw [whole]
    exact iff_of_false (by simp) (by simp)

/-- The first number that is too long is refused. -/
theorem Spells.parse_long (spells : Spells text sign version major minor patch)
    (long : ∃ digits ∈ [major, minor, patch], Text.digitLimit < digits.length) :
    ∃ digits ∈ [major, minor, patch], Text.digitLimit < digits.length ∧
      parse text = .error (.fault (.numeralTooLong digits.length)) := by
  have read {run : List Char} (short : run.length ≤ Text.digitLimit) :
      Version.numeral run = .ok (Text.numeralValue run) :=
    Version.numeral_eq_ok_iff.2 ⟨short, rfl⟩
  have refused {run : List Char} (long : Text.digitLimit < run.length) :
      Version.numeral run = .error (.fault (.numeralTooLong run.length)) :=
    Version.numeral_eq_error_iff.2 ⟨long, rfl⟩
  rw [spells.parse_eq]
  rcases Nat.lt_or_ge Text.digitLimit major.length with majorLong | majorShort
  · refine ⟨major, by simp, majorLong, ?_⟩
    rw [refused majorLong]
    rfl
  rcases Nat.lt_or_ge Text.digitLimit minor.length with minorLong | minorShort
  · refine ⟨minor, by simp, minorLong, ?_⟩
    rw [read majorShort, refused minorLong]
    rfl
  rcases Nat.lt_or_ge Text.digitLimit patch.length with patchLong | patchShort
  · refine ⟨patch, by simp, patchLong, ?_⟩
    rw [read majorShort, read minorShort, refused patchLong]
    rfl
  · obtain ⟨digits, listed, tooLong⟩ := long
    simp only [List.mem_cons, List.not_mem_nil, or_false] at listed
    rcases listed with rfl | rfl | rfl <;> omega

/-- The pattern of the schema and the reader agree on what a requirement is. What the pattern
accepts can be read, as an exact pin where it begins with `=`, unless a number in it has too many
digits; and of the trimmed texts without digits of other scripts it accepts those that can be
read. -/
theorem parse_agrees (text : String) :
    (Schema.requirementPattern.accepts text = true →
      ∃ sign version major minor patch, Spells text sign version major minor patch ∧
        ((∀ digits ∈ [major, minor, patch], digits.length ≤ Text.digitLimit) →
          ∃ mode, parse text = .ok ⟨String.ofList version, mode⟩ ∧
            (mode = .exact ↔ text.toList.head? = some '=')) ∧
        ((∃ digits ∈ [major, minor, patch], Text.digitLimit < digits.length) →
          ∃ digits ∈ [major, minor, patch], Text.digitLimit < digits.length ∧
            parse text = .error (.fault (.numeralTooLong digits.length)))) ∧
    (Text.trim text = text → (∀ c ∈ text.toList, Text.isDigit c = true → c.isDigit = true) →
      ∀ requirement, parse text = .ok requirement →
        Schema.requirementPattern.accepts text = true) := by
  refine ⟨fun accepted => ?_, fun trimmed ascii requirement read => ?_⟩
  · obtain ⟨sign, version, major, minor, patch, spells⟩ := accepts_iff_spells.1 accepted
    refine ⟨sign, version, major, minor, patch, spells, fun short => ?_, spells.parse_long⟩
    refine ⟨_, spells.parse_short short, ?_⟩
    rw [spells.head?_eq_iff]
    split <;> simp [*]
  · exact accepts_iff_spells.2 (spells_of_parse trimmed ascii read)

/-- An exact pin with blanks and a line break after it, and a compatible range. -/
theorem parse_agrees_signed :
    (Schema.requirementPattern.accepts "= 1.10-rc\n" = true ∧
      ∃ requirement, parse "= 1.10-rc\n" = .ok requirement ∧ requirement.mode = .exact) ∧
    parse "^1.2" = .ok ⟨"1.2", .compatible⟩ ∧
      Schema.requirementPattern.accepts "^1.2" = true := by
  have accepted : Schema.requirementPattern.accepts "= 1.10-rc\n" = true := by decide +kernel
  have read : parse "^1.2" = .ok ⟨"1.2", .compatible⟩ := rfl
  have ascii : ∀ c ∈ "^1.2".toList, Text.isDigit c = true → c.isDigit = true := by
    have chars : "^1.2".toList = ['^', '1', '.', '2'] := rfl
    rw [chars]
    simp only [List.forall_mem_cons]
    exact ⟨by decide, by decide, by decide, by decide, List.forall_mem_nil _⟩
  refine ⟨⟨accepted, ?_⟩, read, (parse_agrees "^1.2").2 (by decide +kernel) ascii _ read⟩
  obtain ⟨sign, version, major, minor, patch, spells, short, -⟩ :=
    (parse_agrees "= 1.10-rc\n").1 accepted
  have runs := spells.runs?_text
  rw [show runs? "= 1.10-rc\n" = some (['1'], ['1', '0'], []) by decide +kernel] at runs
  cases runs
  obtain ⟨mode, parsed, isExact⟩ := short (by decide)
  exact ⟨_, parsed, isExact.2 (by decide)⟩

end Requirement

end FeatureResolution
