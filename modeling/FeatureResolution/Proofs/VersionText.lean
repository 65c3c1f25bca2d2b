import FeatureResolution.Contract
import FeatureResolution.Proofs.Checks
import FeatureResolution.Proofs.TrimmedText
import Mathlib.Data.List.TakeWhile

/-!
# The parts of a version text

A version text is made up of a run of digits, up to two more runs after a dot each, and a suffix
(`Version.Parts`). Cutting a text into runs finds these parts, and only where there are such parts
(`Version.runs?_eq_some_iff`); it does not matter that they are looked for from left to right, since
no part begins as the one before it could go on. A text with its parts holds no blank
(`Parts.unblank`), so trimming leaves it as it is.
-/

namespace FeatureResolution

namespace Text

/-! ## Characters that are no blanks -/

/-- No visible character of the first hundred and twenty-eight is a blank. -/
theorem isBlank_of_visible {c : Char} (low : 0x21 ≤ c.toNat) (high : c.toNat < 0x80) :
    isBlank c = false := by
  refine Bool.eq_false_iff.2 fun blank => ?_
  simp only [isBlank, Bool.or_eq_true, Bool.and_eq_true, decide_eq_true_eq, beq_iff_eq] at blank
  omega

theorem isBlank_of_isAlphanum {c : Char} (alphanumeric : c.isAlphanum = true) :
    isBlank c = false := by
  delta Char.isAlphanum Char.isAlpha Char.isUpper Char.isLower Char.isDigit at alphanumeric
  simp only [Bool.or_eq_true, Bool.and_eq_true, decide_eq_true_eq, UInt32.le_iff_toNat_le,
    ge_iff_le, UInt32.reduceToNat, Char.reduceVal] at alphanumeric
  have code : c.toNat = c.val.toNat := rfl
  exact isBlank_of_visible (by omega) (by omega)

/-! ## Digits -/

theorem digitValue?_of_ascii {c : Char} (digit : c.isDigit = true) :
    digitValue? c = some (c.toNat - '0'.toNat) := by
  have bounds : 0x30 ≤ c.toNat ∧ c.toNat < 0x3A := by
    simp only [Char.isDigit, Bool.and_eq_true, decide_eq_true_eq, UInt32.le_iff_toNat_le,
      ge_iff_le, UInt32.reduceToNat, Char.reduceVal] at digit
    have code : c.toNat = c.val.toNat := rfl
    omega
  rw [digitValue?, zeros, List.find?_cons_of_pos (by simpa using bounds)]
  rfl

/-- The ASCII digits are digits. -/
theorem isDigit_of_ascii {c : Char} (digit : c.isDigit = true) : isDigit c = true := by
  rw [isDigit, digitValue?_of_ascii digit]
  rfl

/-- No digit of any script is a blank. -/
theorem isBlank_of_isDigit {c : Char} (digit : isDigit c = true) : isBlank c = false := by
  obtain ⟨value, found⟩ := Option.isSome_iff_exists.1 digit
  obtain ⟨first, isFirst, rfl⟩ := Option.map_eq_some_iff.1 found
  have near : first ≤ c.toNat ∧ c.toNat < first + 10 := by simpa using List.find?_some isFirst
  -- Every run of ten digits lies between two blanks or beyond the last one.
  have apart : ∀ first ∈ zeros, first = 0x30 ∨ (0xA0 < first ∧ first + 10 ≤ 0x1680) ∨
      (0x1680 < first ∧ first + 10 ≤ 0x2000) ∨ 0x3000 < first := by decide
  have place := apart first (List.mem_of_find?_eq_some isFirst)
  refine Bool.eq_false_iff.2 fun blank => ?_
  simp only [isBlank, Bool.or_eq_true, Bool.and_eq_true, decide_eq_true_eq, beq_iff_eq] at blank
  omega

end Text

namespace Version

/-! ## Parts -/

/-- A run of digits after a dot; a missing run needs none. -/
def dotted : List Char → List Char
  | [] => []
  | digits => '.' :: digits

@[simp] theorem dotted_nil : dotted [] = [] :=
  rfl

theorem dotted_of_ne_nil {digits : List Char} (nonempty : digits ≠ []) :
    dotted digits = '.' :: digits := by
  cases digits with
  | nil => exact absurd rfl nonempty
  | cons head rest => rfl

/-- A text is made up of the runs of digits of a version and a suffix; there is no patch number
without a minor number. -/
structure Parts (digit : Char → Bool) (chars major minor patch suffix : List Char) : Prop where
  whole : chars = major ++ (dotted minor ++ (dotted patch ++ suffix))
  nonempty : major ≠ []
  majorDigits : ∀ c ∈ major, digit c = true
  minorDigits : ∀ c ∈ minor, digit c = true
  patchDigits : ∀ c ∈ patch, digit c = true
  inOrder : minor = [] → patch = []
  ends : isSuffix suffix = true

/-- What counts as a digit matters only for the characters of the text. -/
theorem Parts.imp {digit digit' : Char → Bool} {chars major minor patch suffix : List Char}
    (parts : Parts digit chars major minor patch suffix)
    (digits : ∀ c ∈ chars, digit c = true → digit' c = true) :
    Parts digit' chars major minor patch suffix := by
  have inDotted {run : List Char} {c : Char} (present : c ∈ run) : c ∈ dotted run := by
    rw [dotted_of_ne_nil (List.ne_nil_of_mem present)]
    exact List.mem_cons_of_mem _ present
  obtain ⟨rfl, nonempty, majorDigits, minorDigits, patchDigits, inOrder, ends⟩ := parts
  refine ⟨rfl, nonempty, fun c present => ?_, fun c present => ?_, fun c present => ?_, inOrder,
    ends⟩
  · exact digits c (by simp [present]) (majorDigits c present)
  · exact digits c (by simp [inDotted present]) (minorDigits c present)
  · exact digits c (by simp [inDotted present]) (patchDigits c present)

/-- A text does not begin with a digit. -/
def Undigited (chars : List Char) : Prop :=
  ∀ c, chars.head? = some c → Text.isDigit c = false

theorem takeWhile_append_undigited {digits rest : List Char}
    (allDigits : ∀ c ∈ digits, Text.isDigit c = true) (stops : Undigited rest) :
    (digits ++ rest).takeWhile Text.isDigit = digits ∧
      (digits ++ rest).dropWhile Text.isDigit = rest := by
  rw [List.takeWhile_append_of_pos allDigits, List.dropWhile_append_of_pos allDigits]
  cases rest with
  | nil => simp
  | cons head rest =>
    have first := stops head rfl
    rw [List.takeWhile_cons_of_neg (by simp [first]), List.dropWhile_cons_of_neg (by simp [first])]
    simp

theorem undigited_dotted (digits : List Char) {rest : List Char} (stops : Undigited rest) :
    Undigited (dotted digits ++ rest) := by
  cases digits with
  | nil => exact stops
  | cons head more =>
    rintro c ⟨⟩
    decide

theorem undigited_suffix {suffix : List Char} (isSuffix : isSuffix suffix = true) :
    Undigited suffix := by
  cases suffix with
  | nil => exact nofun
  | cons sign rest =>
    rintro c ⟨⟩
    simp only [Version.isSuffix, Bool.and_eq_true, Bool.or_eq_true, beq_iff_eq] at isSuffix
    rcases isSuffix.1 with rfl | rfl <;> decide

/-! ## Runs of digits -/

/-- A run is taken off as far as it goes. -/
theorem component_dotted {digits rest : List Char} (nonempty : digits ≠ [])
    (allDigits : ∀ c ∈ digits, Text.isDigit c = true) (stops : Undigited rest) :
    component (dotted digits ++ rest) = (digits, rest) := by
  obtain ⟨taken, left⟩ := takeWhile_append_undigited allDigits stops
  rw [dotted_of_ne_nil nonempty, List.cons_append, component, taken, left,
    if_neg (by simpa using nonempty)]

/-- A suffix begins with no run. -/
theorem component_suffix {suffix : List Char} (isSuffix : isSuffix suffix = true) :
    component suffix = ([], suffix) := by
  unfold component
  split
  · cases isSuffix
  · rfl

/-- What is taken off is a run after a dot, if anything. -/
theorem component_sound (chars : List Char) :
    chars = dotted (component chars).1 ++ (component chars).2 ∧
      ∀ c ∈ (component chars).1, Text.isDigit c = true := by
  unfold component
  split
  · next rest =>
    dsimp only
    split
    · exact ⟨rfl, nofun⟩
    · next nonempty =>
      refine ⟨?_, fun c present => List.mem_takeWhile_imp present⟩
      rw [dotted_of_ne_nil (by simpa using nonempty), List.cons_append,
        List.takeWhile_append_dropWhile]
  · exact ⟨rfl, nofun⟩

/-- Where no run is taken off, none is left to be taken off. -/
theorem component_of_nil {chars : List Char} (none : (component chars).1 = []) :
    (component chars).2 = chars := by
  have whole := (component_sound chars).1
  rw [none] at whole
  exact whole.symm

theorem runs?_of_parts {chars major minor patch suffix : List Char}
    (parts : Parts Text.isDigit chars major minor patch suffix) :
    runs? chars = some (major, minor, patch) := by
  obtain ⟨rfl, nonempty, majorDigits, minorDigits, patchDigits, inOrder, ends⟩ := parts
  have suffixStops := undigited_suffix ends
  have patchStops := undigited_dotted patch suffixStops
  obtain ⟨taken, left⟩ := takeWhile_append_undigited majorDigits (undigited_dotted minor patchStops)
  have patchTaken : component (dotted patch ++ suffix) = (patch, suffix) := by
    by_cases none : patch = []
    · rw [none]
      exact component_suffix ends
    · exact component_dotted none patchDigits suffixStops
  have minorTaken : component (dotted minor ++ (dotted patch ++ suffix)) =
      (minor, dotted patch ++ suffix) := by
    by_cases none : minor = []
    · rw [none, inOrder none]
      exact component_suffix ends
    · exact component_dotted none minorDigits patchStops
  simp [runs?, taken, left, minorTaken, patchTaken, nonempty, ends]

theorem parts_of_runs? {chars major minor patch : List Char}
    (found : runs? chars = some (major, minor, patch)) :
    ∃ suffix, Parts Text.isDigit chars major minor patch suffix := by
  unfold runs? at found
  simp only [Option.ite_none_right_eq_some, Bool.and_eq_true, Option.some.injEq,
    Prod.mk.injEq] at found
  obtain ⟨⟨nonempty, ends⟩, rfl, rfl, rfl⟩ := found
  obtain ⟨minorWhole, minorDigits⟩ := component_sound (chars.dropWhile Text.isDigit)
  obtain ⟨patchWhole, patchDigits⟩ :=
    component_sound (component (chars.dropWhile Text.isDigit)).2
  refine ⟨(component (component (chars.dropWhile Text.isDigit)).2).2, {
    whole := ?_
    nonempty := by simpa using nonempty
    majorDigits := fun c present => List.mem_takeWhile_imp present
    minorDigits := minorDigits
    patchDigits := patchDigits
    inOrder := fun none => ?_
    ends := ends }⟩
  · rw [← patchWhole, ← minorWhole, List.takeWhile_append_dropWhile]
  · rw [component_of_nil none]
    exact none

/-- Cutting a text into runs finds its parts. -/
theorem runs?_eq_some_iff {chars major minor patch : List Char} :
    runs? chars = some (major, minor, patch) ↔
      ∃ suffix, Parts Text.isDigit chars major minor patch suffix :=
  ⟨parts_of_runs?, fun ⟨_, parts⟩ => runs?_of_parts parts⟩

/-! ## Blanks -/

theorem unblank_suffix {suffix : List Char} (ends : isSuffix suffix = true) :
    ∀ c ∈ suffix, Text.isBlank c = false := by
  cases suffix with
  | nil => exact nofun
  | cons sign rest =>
    simp only [isSuffix, isSuffixChar, Bool.and_eq_true, Bool.or_eq_true, beq_iff_eq,
      List.all_eq_true] at ends
    obtain ⟨isSign, allowed⟩ := ends
    refine List.forall_mem_cons.2 ⟨?_, fun c present => ?_⟩
    · rcases isSign with rfl | rfl <;> decide
    · rcases allowed c present with ((alphanumeric | rfl) | rfl) | rfl
      · exact Text.isBlank_of_isAlphanum alphanumeric
      all_goals decide

/-- Where digits are no blanks, a version text holds none. -/
theorem Parts.unblank {digit : Char → Bool} {chars major minor patch suffix : List Char}
    (parts : Parts digit chars major minor patch suffix)
    (digits : ∀ c, digit c = true → Text.isBlank c = false) :
    ∀ c ∈ chars, Text.isBlank c = false := by
  have inRun {run : List Char} (allDigits : ∀ c ∈ run, digit c = true) :
      ∀ c ∈ dotted run, Text.isBlank c = false := by
    intro c present
    cases run with
    | nil => cases present
    | cons head rest =>
      rcases List.mem_cons.1 present with rfl | inDigits
      · decide
      · exact digits c (allDigits c inDigits)
  obtain ⟨rfl, _, majorDigits, minorDigits, patchDigits, _, ends⟩ := parts
  intro c present
  simp only [List.mem_append] at present
  rcases present with inMajor | inMinor | inPatch | ending
  · exact digits c (majorDigits c inMajor)
  · exact inRun minorDigits c inMinor
  · exact inRun patchDigits c inPatch
  · exact unblank_suffix ends c ending

end Version

end FeatureResolution
