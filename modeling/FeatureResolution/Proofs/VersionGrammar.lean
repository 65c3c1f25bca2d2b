import FeatureResolution.Proofs.VersionText
import Mathlib.Data.List.Induction
import Mathlib.Data.Nat.Digits.Defs

/-!
# Which texts are versions

A version is spelled by one, two or three runs of digits with points between them and by a suffix
(`Version.Spelled`). The digits may be of any script, and zeros in front of them do not count.

* Trimming leaves such a spelling as it is, since no digit is a blank (`Spelled.trimChars_eq`).
* A text whose trimmed form is spelled so is read number by number (`parse_of_spelled`), and it is
  refused at the first number that has too many digits (`Spelled.parse_eq_error_iff`).
* Every other text is refused as no version (`parse_of_not_spelled`).

So a text is read exactly when it is spelled as a version with numbers that are not too long, and
then to the numbers that its runs write (`parse_exact`). Decimal forms are read back, and blanks
around a version, its suffix, zeros in front of its numbers and the scripts of its digits make no
difference.
-/

namespace FeatureResolution

/-! ## Numbers -/

namespace Text

variable {run other : List Char}

/-- The values of the digits of a run, the most significant first. -/
def digitValues (run : List Char) : List Nat :=
  run.filterMap digitValue?

/-- The number that a run of digits, of whatever scripts, writes in base ten. -/
def decimalValue (run : List Char) : Nat :=
  Nat.ofDigits 10 (digitValues run).reverse

/-- The values of the digits of a run from the first that is not zero. -/
def significantDigits (run : List Char) : List Nat :=
  (digitValues run).dropWhile (· = 0)

/-- Two runs of digits differ at most in zeros in front and in the scripts of their digits. -/
def WriteAlike (run other : List Char) : Prop :=
  significantDigits run = significantDigits other

theorem numeralValue_eq_decimalValue (digits : ∀ c ∈ run, isDigit c = true) :
    numeralValue run = decimalValue run := by
  -- The value is built from the most significant digit on, so the induction is on the last digit.
  induction run using List.reverseRecOn with
  | nil => rfl
  | append_singleton before c ih =>
    obtain ⟨value, isValue⟩ := Option.isSome_iff_exists.1 (digits c (by simp))
    have earlier := ih fun d present => digits d (by simp [present])
    rw [numeralValue_append_singleton, earlier, isValue]
    simp [decimalValue, digitValues, isValue, Nat.ofDigits_cons, Nat.add_comm]

theorem numeralValue_of_ascii (digits : ∀ c ∈ run, c.isDigit = true) :
    numeralValue run = Nat.ofDigitChars 10 run 0 := by
  induction run using List.reverseRecOn with
  | nil => rfl
  | append_singleton before c ih =>
    have earlier := ih fun d present => digits d (by simp [present])
    rw [numeralValue_append_singleton, earlier, digitValue?_of_ascii (digits c (by simp)),
      Nat.ofDigitChars_append, Nat.ofDigitChars_cons, Nat.ofDigitChars_nil]
    rfl

/-- A number is what its decimal form writes. -/
theorem decimalValue_toDigits (number : Nat) : decimalValue (Nat.toDigits 10 number) = number := by
  have ascii : ∀ c ∈ Nat.toDigits 10 number, c.isDigit = true := fun c present =>
    Nat.isDigit_of_mem_toDigits (by decide) (by decide) present
  rw [← numeralValue_eq_decimalValue fun c present => isDigit_of_ascii (ascii c present),
    numeralValue_of_ascii ascii, Nat.ofDigitChars_ten_toDigits]

/-- Zeros in front do not count. -/
theorem ofDigits_reverse_dropWhile (values : List Nat) :
    Nat.ofDigits 10 (values.dropWhile (· = 0)).reverse = Nat.ofDigits 10 values.reverse := by
  induction values with
  | nil => rfl
  | cons first rest ih =>
    by_cases zero : first = 0
    · rw [List.dropWhile_cons_of_pos (by simpa using zero), ih, zero,
        Nat.ofDigits_reverse_zero_cons]
    · rw [List.dropWhile_cons_of_neg (by simpa using zero)]

theorem WriteAlike.decimalValue_eq (alike : WriteAlike run other) :
    decimalValue run = decimalValue other := by
  unfold WriteAlike significantDigits at alike
  rw [decimalValue, decimalValue, ← ofDigits_reverse_dropWhile, alike, ofDigits_reverse_dropWhile]

end Text

namespace Version

variable {text : String} {chars suffix : List Char} {runs : List (List Char)}

/-! ## Spellings -/

/-- A version is spelled by one to three runs of digits, of any script, with points between them,
and a suffix: nothing, or a sign and any ASCII letters, ASCII digits, points and signs after it. -/
structure Spelled (chars : List Char) (runs : List (List Char)) (suffix : List Char) : Prop where
  whole : chars = ['.'].intercalate runs ++ suffix
  number : 1 ≤ runs.length ∧ runs.length ≤ 3
  digits : ∀ run ∈ runs, run ≠ [] ∧ ∀ c ∈ run, Text.isDigit c = true
  ends : suffix = [] ∨ ∃ sign rest, suffix = sign :: rest ∧ (sign = '-' ∨ sign = '+') ∧
    ∀ c ∈ rest, c.isAlphanum = true ∨ c = '.' ∨ c = '+' ∨ c = '-'

theorem isSuffix_iff : isSuffix suffix = true ↔
    suffix = [] ∨ ∃ sign rest, suffix = sign :: rest ∧ (sign = '-' ∨ sign = '+') ∧
      ∀ c ∈ rest, c.isAlphanum = true ∨ c = '.' ∨ c = '+' ∨ c = '-' := by
  cases suffix with
  | nil => simp [isSuffix]
  | cons sign rest => simp [isSuffix, isSuffixChar, or_assoc]

theorem spelled_iff : Spelled chars runs suffix ↔
    chars = ['.'].intercalate runs ++ suffix ∧ (1 ≤ runs.length ∧ runs.length ≤ 3) ∧
      (runs.all fun run => !run.isEmpty && run.all Text.isDigit) = true ∧
        isSuffix suffix = true := by
  simp only [List.all_eq_true, Bool.and_eq_true, Bool.not_eq_true', List.isEmpty_eq_false_iff,
    isSuffix_iff]
  exact ⟨fun ⟨whole, number, digits, ends⟩ => ⟨whole, number, digits, ends⟩,
    fun ⟨whole, number, digits, ends⟩ => ⟨whole, number, digits, ends⟩⟩

instance (chars : List Char) (runs : List (List Char)) (suffix : List Char) :
    Decidable (Spelled chars runs suffix) :=
  decidable_of_iff _ spelled_iff.symm

/-- A text with the parts of a version is spelled by those of its runs that are not missing. -/
theorem Parts.exists_spelled {major minor patch : List Char}
    (parts : Parts Text.isDigit chars major minor patch suffix) :
    ∃ runs, Spelled chars runs suffix := by
  obtain ⟨rfl, nonempty, majorDigits, minorDigits, patchDigits, inOrder, ends⟩ := parts
  have ended := isSuffix_iff.1 ends
  by_cases noMinor : minor = []
  · have noPatch := inOrder noMinor
    subst noMinor noPatch
    exact ⟨[major], by simp, by simp, by simpa using ⟨nonempty, majorDigits⟩, ended⟩
  by_cases noPatch : patch = []
  · subst noPatch
    refine ⟨[major, minor], ?_, by simp, ?_, ended⟩
    · simp [dotted_of_ne_nil noMinor]
    · simpa using ⟨⟨nonempty, majorDigits⟩, noMinor, minorDigits⟩
  · refine ⟨[major, minor, patch], ?_, by simp, ?_, ended⟩
    · simp [dotted_of_ne_nil noMinor, dotted_of_ne_nil noPatch]
    · simpa using ⟨⟨nonempty, majorDigits⟩, ⟨noMinor, minorDigits⟩, noPatch, patchDigits⟩

theorem Spelled.parts (spelled : Spelled chars runs suffix) :
    Parts Text.isDigit chars (runs.getD 0 []) (runs.getD 1 []) (runs.getD 2 []) suffix := by
  obtain ⟨rfl, ⟨one, three⟩, digits, ends⟩ := spelled
  have ended := isSuffix_iff.2 ends
  obtain _ | ⟨major, _ | ⟨minor, _ | ⟨patch, _ | ⟨fourth, rest⟩⟩⟩⟩ := runs
  · simp at one
  · obtain ⟨nonempty, majorDigits⟩ := digits major (by simp)
    exact ⟨by simp, nonempty, majorDigits, by simp, by simp, by simp, ended⟩
  · obtain ⟨nonempty, majorDigits⟩ := digits major (by simp)
    obtain ⟨someMinor, minorDigits⟩ := digits minor (by simp)
    refine ⟨?_, nonempty, majorDigits, minorDigits, by simp, fun _ => rfl, ended⟩
    simp [dotted_of_ne_nil someMinor]
  · obtain ⟨nonempty, majorDigits⟩ := digits major (by simp)
    obtain ⟨someMinor, minorDigits⟩ := digits minor (by simp)
    obtain ⟨somePatch, patchDigits⟩ := digits patch (by simp)
    refine ⟨?_, nonempty, majorDigits, minorDigits, patchDigits, ?_, ended⟩
    · simp [dotted_of_ne_nil someMinor, dotted_of_ne_nil somePatch]
    · exact fun none => absurd none someMinor
  · simp only [List.length_cons] at three
    omega

/-- Nothing of a spelling is trimmed. -/
theorem Spelled.trimChars_eq (spelled : Spelled chars runs suffix) :
    Text.trimChars chars = chars :=
  Text.trimChars_of_unblank (spelled.parts.unblank fun _ => Text.isBlank_of_isDigit)

theorem spelled_run {run : List Char} (nonempty : run ≠ [])
    (digits : ∀ c ∈ run, Text.isDigit c = true) : Spelled run [run] [] :=
  ⟨by simp, by simp, by simpa using ⟨nonempty, digits⟩, .inl rfl⟩

theorem spelled_decimal (major minor patch : Nat) :
    Spelled (toString major ++ "." ++ toString minor ++ "." ++ toString patch).toList
      [Nat.toDigits 10 major, Nat.toDigits 10 minor, Nat.toDigits 10 patch] [] := by
  have isRun (number : Nat) : Nat.toDigits 10 number ≠ [] ∧
      ∀ c ∈ Nat.toDigits 10 number, Text.isDigit c = true := by
    refine ⟨Nat.toDigits_ne_nil, fun c present => Text.isDigit_of_ascii ?_⟩
    exact Nat.isDigit_of_mem_toDigits (by decide) (by decide) present
  refine ⟨by simp, by simp, ?_, .inl rfl⟩
  intro run present
  simp only [List.mem_cons, List.not_mem_nil, or_false] at present
  rcases present with rfl | rfl | rfl
  · exact isRun major
  · exact isRun minor
  · exact isRun patch

/-! ## Reading -/

/-- The version of some numbers, the first of them the major one; a missing number is zero. -/
def ofNumbers (numbers : List Nat) : Version :=
  ⟨numbers.getD 0 0, numbers.getD 1 0, numbers.getD 2 0⟩

theorem numeral_eq_ok_iff {run : List Char} {number : Nat} :
    numeral run = .ok number ↔ run.length ≤ Text.digitLimit ∧ number = Text.numeralValue run := by
  unfold numeral
  split
  · next short => simp [short, eq_comm]
  · next long => simp [long]

theorem numeral_eq_error_iff {run : List Char} {error : Error} :
    numeral run = .error error ↔
      Text.digitLimit < run.length ∧ error = .fault (.numeralTooLong run.length) := by
  unfold numeral
  split
  · next short => simp [short]
  · next long => simp [Nat.lt_of_not_le long, eq_comm]

/-- Runs of digits are read to the numbers that they write unless one of them is too long. -/
theorem mapM_numeral_eq_ok_iff {numbers : List Nat}
    (digits : ∀ run ∈ runs, ∀ c ∈ run, Text.isDigit c = true) :
    runs.mapM numeral = .ok numbers ↔
      (∀ run ∈ runs, run.length ≤ Text.digitLimit) ∧ numbers = runs.map Text.decimalValue := by
  induction runs generalizing numbers with
  | nil => simp [eq_comm]
  | cons run rest ih =>
    obtain ⟨runDigits, restDigits⟩ := List.forall_mem_cons.1 digits
    have value := Text.numeralValue_eq_decimalValue runDigits
    simp only [List.mapM_cons, bind_eq_ok_iff, numeral_eq_ok_iff, ih restDigits, value, pure_eq_ok,
      Except.ok.injEq, List.forall_mem_cons, List.map_cons]
    constructor
    · rintro ⟨number, ⟨short, rfl⟩, numbers, ⟨restShort, rfl⟩, rfl⟩
      exact ⟨⟨short, restShort⟩, rfl⟩
    · rintro ⟨⟨short, restShort⟩, rfl⟩
      exact ⟨_, ⟨short, rfl⟩, _, ⟨restShort, rfl⟩, rfl⟩

/-- A spelled text is read number by number. -/
theorem parse_of_spelled (spelled : Spelled (Text.trimChars text.toList) runs suffix) :
    parse text = (runs.mapM numeral).map ofNumbers := by
  -- A missing run is looked for too, as the empty one, and reads as zero.
  have missing : numeral [] = .ok 0 := rfl
  unfold parse
  rw [runs?_of_parts spelled.parts]
  obtain ⟨one, three⟩ := spelled.number
  obtain _ | ⟨major, _ | ⟨minor, _ | ⟨patch, _ | ⟨fourth, rest⟩⟩⟩⟩ := runs
  · simp at one
  · simp only [List.getD_cons_zero, List.getD_cons_succ, List.getD_nil, List.mapM_cons,
      List.mapM_nil, missing, ok_bind, pure_eq_ok]
    cases numeral major <;> rfl
  · simp only [List.getD_cons_zero, List.getD_cons_succ, List.getD_nil, List.mapM_cons,
      List.mapM_nil, missing, ok_bind, pure_eq_ok]
    cases numeral major <;> cases numeral minor <;> rfl
  · simp only [List.getD_cons_zero, List.getD_cons_succ, List.mapM_cons, List.mapM_nil,
      pure_eq_ok]
    cases numeral major <;> cases numeral minor <;> cases numeral patch <;> rfl
  · simp only [List.length_cons] at three
    omega

theorem parse_of_not_spelled
    (unspelled : ∀ runs suffix, ¬ Spelled (Text.trimChars text.toList) runs suffix) :
    parse text = .error (.fault (.notVersion text)) := by
  unfold parse
  cases found : runs? (Text.trimChars text.toList) with
  | none => rfl
  | some cut =>
    obtain ⟨major, minor, patch⟩ := cut
    obtain ⟨suffix, parts⟩ := parts_of_runs? found
    obtain ⟨runs, spelled⟩ := parts.exists_spelled
    exact absurd spelled (unspelled runs suffix)

/-- A spelled text is a version when none of its numbers is too long. -/
theorem Spelled.parse_eq_ok_iff (spelled : Spelled (Text.trimChars text.toList) runs suffix)
    {version : Version} :
    parse text = .ok version ↔ (∀ run ∈ runs, run.length ≤ Text.digitLimit) ∧
      version = ofNumbers (runs.map Text.decimalValue) := by
  rw [parse_of_spelled spelled, map_eq_ok_iff]
  simp only [mapM_numeral_eq_ok_iff fun run present => (spelled.digits run present).2]
  constructor
  · rintro ⟨_, ⟨short, rfl⟩, rfl⟩
    exact ⟨short, rfl⟩
  · rintro ⟨short, rfl⟩
    exact ⟨_, ⟨short, rfl⟩, rfl⟩

/-- A spelled text that is no version is refused for the first of its numbers that is too long. -/
theorem Spelled.parse_eq_error_iff (spelled : Spelled (Text.trimChars text.toList) runs suffix)
    {error : Error} :
    parse text = .error error ↔ ∃ before run after, runs = before ++ run :: after ∧
      (∀ earlier ∈ before, earlier.length ≤ Text.digitLimit) ∧ Text.digitLimit < run.length ∧
        error = .fault (.numeralTooLong run.length) := by
  rw [parse_of_spelled spelled, map_eq_error_iff, mapM_eq_error_iff]
  simp only [numeral_eq_ok_iff, numeral_eq_error_iff, exists_and_left, exists_eq, and_true]

/-! ## Result -/

/-- How a text is refused as a version: for the first number in it that has too many digits, or
because it is not spelled as a version at all. -/
inductive Refused (text : String) : Error → Prop
  | tooLong {before after : List (List Char)} {run suffix : List Char} :
      Spelled (Text.trimChars text.toList) (before ++ run :: after) suffix →
      (∀ earlier ∈ before, earlier.length ≤ Text.digitLimit) → Text.digitLimit < run.length →
      Refused text (.fault (.numeralTooLong run.length))
  | unspelled : (∀ runs suffix, ¬ Spelled (Text.trimChars text.toList) runs suffix) →
      Refused text (.fault (.notVersion text))

theorem parse_eq_ok_iff {version : Version} :
    parse text = .ok version ↔ ∃ runs suffix,
      Spelled (Text.trimChars text.toList) runs suffix ∧
        (∀ run ∈ runs, run.length ≤ Text.digitLimit) ∧
          version = ofNumbers (runs.map Text.decimalValue) := by
  constructor
  · intro parsed
    by_cases spelled : ∃ runs suffix, Spelled (Text.trimChars text.toList) runs suffix
    · obtain ⟨runs, suffix, spelled⟩ := spelled
      exact ⟨runs, suffix, spelled, spelled.parse_eq_ok_iff.1 parsed⟩
    · push Not at spelled
      cases parsed.symm.trans (parse_of_not_spelled spelled)
  · rintro ⟨runs, suffix, spelled, read⟩
    exact spelled.parse_eq_ok_iff.2 read

theorem parse_eq_error_iff {error : Error} : parse text = .error error ↔ Refused text error := by
  constructor
  · intro failed
    by_cases spelled : ∃ runs suffix, Spelled (Text.trimChars text.toList) runs suffix
    · obtain ⟨runs, suffix, spelled⟩ := spelled
      obtain ⟨before, run, after, rfl, short, long, rfl⟩ := spelled.parse_eq_error_iff.1 failed
      exact .tooLong spelled short long
    · push Not at spelled
      cases failed.symm.trans (parse_of_not_spelled spelled)
      exact .unspelled spelled
  · rintro (⟨spelled, short, long⟩ | unspelled)
    · exact spelled.parse_eq_error_iff.2 ⟨_, _, _, rfl, short, long, rfl⟩
    · exact parse_of_not_spelled unspelled

theorem parse_decimal {major minor patch : Nat}
    (short : ∀ number ∈ [major, minor, patch], (toString number).length ≤ Text.digitLimit) :
    parse (toString major ++ "." ++ toString minor ++ "." ++ toString patch) =
      .ok ⟨major, minor, patch⟩ := by
  have spelled := spelled_decimal major minor patch
  rw [← spelled.trimChars_eq] at spelled
  refine spelled.parse_eq_ok_iff.2 ⟨?_, ?_⟩
  · simpa [Nat.repr_eq_ofList_toDigits] using short
  · simp [ofNumbers, Text.decimalValue_toDigits]

theorem parse_of_writeAlike {other : String} {others : List (List Char)} {ending : List Char}
    (spelled : Spelled (Text.trimChars text.toList) runs suffix)
    (otherSpelled : Spelled (Text.trimChars other.toList) others ending)
    (alike : List.Forall₂ Text.WriteAlike runs others)
    (short : ∀ run ∈ runs, run.length ≤ Text.digitLimit)
    (otherShort : ∀ run ∈ others, run.length ≤ Text.digitLimit) : parse text = parse other := by
  have values : runs.map Text.decimalValue = others.map Text.decimalValue := by
    rw [← List.forall₂_eq_eq_eq, List.forall₂_map_left_iff, List.forall₂_map_right_iff]
    exact alike.imp fun _ _ => Text.WriteAlike.decimalValue_eq
  have reads := spelled.parse_eq_ok_iff.2 ⟨short, rfl⟩
  have otherReads := otherSpelled.parse_eq_ok_iff.2 ⟨otherShort, rfl⟩
  rw [reads, otherReads, values]

/-- Which texts are versions. The trimmed text is spelled as one with numbers that are not too
long, and they are the numbers of the version; every other text is refused. So decimal forms are
read back, blanks around and suffixes make no difference, and spellings of numbers that are not too
long are read alike if they differ in zeros in front or scripts. -/
theorem parse_exact :
    (∀ text version, parse text = .ok version ↔ ∃ runs suffix,
      Spelled (Text.trimChars text.toList) runs suffix ∧
        (∀ run ∈ runs, run.length ≤ Text.digitLimit) ∧
          version = ofNumbers (runs.map Text.decimalValue)) ∧
    (∀ text error, parse text = .error error ↔ Refused text error) ∧
    (∀ major minor patch : Nat,
      (∀ number ∈ [major, minor, patch], (toString number).length ≤ Text.digitLimit) →
        parse (toString major ++ "." ++ toString minor ++ "." ++ toString patch) =
          .ok ⟨major, minor, patch⟩) ∧
    (∀ text other runs suffix ending, Spelled (Text.trimChars text.toList) runs suffix →
      Spelled (Text.trimChars other.toList) runs ending → parse text = parse other) ∧
    (∀ text other runs others suffix ending,
      Spelled (Text.trimChars text.toList) runs suffix →
        Spelled (Text.trimChars other.toList) others ending →
          List.Forall₂ Text.WriteAlike runs others →
            (∀ run ∈ runs, run.length ≤ Text.digitLimit) →
              (∀ run ∈ others, run.length ≤ Text.digitLimit) → parse text = parse other) := by
  refine ⟨fun _ _ => parse_eq_ok_iff, fun _ _ => parse_eq_error_iff, ?_, ?_, ?_⟩
  · intro major minor patch short
    exact parse_decimal short
  · intro text other runs suffix ending spelled otherSpelled
    rw [parse_of_spelled spelled, parse_of_spelled otherSpelled]
  · intro text other runs others suffix ending spelled otherSpelled alike short otherShort
    exact parse_of_writeAlike spelled otherSpelled alike short otherShort

/-- Version 1.2 with blanks and a suffix, and with a zero in front and a Devanagari digit; a decimal
form; a number with a digit more than a number may have. -/
theorem parse_exact_scripts :
    parse "\t1.2-rc.1\n" = .ok ⟨1, 2, 0⟩ ∧ parse "\t1.2-rc.1\n" = parse "01.\u0968" ∧
      parse "10.20.30" = .ok ⟨10, 20, 30⟩ ∧
        parse (String.ofList (List.replicate 4301 '7')) =
          .error (.fault (.numeralTooLong 4301)) := by
  obtain ⟨reads, refuses, decimal, _, alike⟩ := parse_exact
  have dashed : Spelled (Text.trimChars "\t1.2-rc.1\n".toList) [['1'], ['2']] "-rc.1".toList := by
    refine ⟨rfl, by decide, ?_, .inr ⟨'-', "rc.1".toList, rfl, .inl rfl, ?_⟩⟩
    · simp only [List.forall_mem_cons]
      exact ⟨⟨by decide, by decide, List.forall_mem_nil _⟩,
        ⟨by decide, by decide, List.forall_mem_nil _⟩, List.forall_mem_nil _⟩
    · have chars : "rc.1".toList = ['r', 'c', '.', '1'] := rfl
      simp only [chars, List.forall_mem_cons]
      exact ⟨by decide, by decide, by decide, by decide, List.forall_mem_nil _⟩
  have plain : Spelled (Text.trimChars "01.\u0968".toList) [['0', '1'], ['\u0968']] [] := by
    refine ⟨rfl, by decide, ?_, .inl rfl⟩
    simp only [List.forall_mem_cons]
    exact ⟨⟨by decide, by decide, by decide, List.forall_mem_nil _⟩,
      ⟨by decide, by decide, List.forall_mem_nil _⟩, List.forall_mem_nil _⟩
  have dashedShort : ∀ run ∈ [['1'], ['2']], run.length ≤ Text.digitLimit := by decide
  have plainShort : ∀ run ∈ [['0', '1'], ['\u0968']], run.length ≤ Text.digitLimit := by decide
  have sevens : ∀ c ∈ List.replicate 4301 '7', Text.isDigit c = true := by
    intro c listed
    rw [List.eq_of_mem_replicate listed]
    rfl
  have count : (List.replicate 4301 '7').length = 4301 := List.length_replicate
  have whole := spelled_run (List.ne_nil_of_length_pos (by rw [count]; decide)) sevens
  have spelled : Spelled (Text.trimChars (String.ofList (List.replicate 4301 '7')).toList)
      ([] ++ List.replicate 4301 '7' :: []) [] := by
    rw [String.toList_ofList, whole.trimChars_eq]
    exact whole
  have refused : Refused (String.ofList (List.replicate 4301 '7'))
      (.fault (.numeralTooLong (List.replicate 4301 '7').length)) := by
    refine .tooLong spelled (List.forall_mem_nil _) ?_
    rw [count]
    decide
  refine ⟨(reads _ _).2 ⟨_, _, dashed, dashedShort, rfl⟩, ?_, decimal 10 20 30 (by decide), ?_⟩
  · refine alike _ _ _ _ _ _ dashed plain (.cons ?_ (.cons ?_ .nil)) dashedShort plainShort
    · rfl
    · rfl
  · rw [count] at refused
    exact (refuses _ _).2 refused

end Version

end FeatureResolution
