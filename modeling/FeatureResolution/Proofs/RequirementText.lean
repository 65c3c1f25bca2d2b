import FeatureResolution.Proofs.TextLabel
import FeatureResolution.Proofs.VersionGrammar

/-!
# How requirements are written

A text writes a requirement (`Requirement.Writes`) as a sign for the way of comparing and the
version, with any blanks between and around them. The sign of an exact pin is `=`, that of a range
is `^` or nothing. Reading is the other way round (`Requirement.parse_eq_ok_iff`): what is read from
a text is the requirement that the text writes, with a trimmed version that can be read.

* What is split off a text was written in it (`split_sound`).
* What is written in a text is split off it (`split_of_signs`): a version begins with a digit, so
  nothing of it is taken for a sign, and there is no blank in it, so nothing of it is trimmed.

The text of a contract writes its requirement, without blanks and with no sign for a range. So the
contract is read back from it, also with blanks around it and with `^` before a range
(`Contract.parse_shown`).
-/

namespace FeatureResolution

open Label

namespace Requirement

variable {mode : ContractMode} {chars sign between version : List Char} {requirement : Requirement}

/-! ## Writing -/

/-- The sign before a version for a way of comparing: `=` for an exact pin, and `^` or nothing for a
range. -/
inductive Signs : ContractMode → List Char → Prop
  | exact : Signs .exact ['=']
  | caret : Signs .compatible ['^']
  | bare : Signs .compatible []

theorem Signs.isSign (signs : Signs mode sign) : sign = [] ∨ sign = ['='] ∨ sign = ['^'] := by
  cases signs with
  | exact => exact .inr (.inl rfl)
  | caret => exact .inr (.inr rfl)
  | bare => exact .inl rfl

/-- A text writes a requirement: a sign of its way of comparing and its version, with blanks before,
between and after them. -/
def Writes (chars : List Char) (requirement : Requirement) : Prop :=
  ∃ before sign between after, Signs requirement.mode sign ∧
    (∀ c ∈ before, Text.isBlank c = true) ∧ (∀ c ∈ between, Text.isBlank c = true) ∧
      (∀ c ∈ after, Text.isBlank c = true) ∧
        chars = before ++ (sign ++ (between ++ requirement.version.toList) ++ after)

theorem Writes.known (writes : Writes chars requirement) :
    requirement.mode = .exact ∨ requirement.mode = .compatible := by
  obtain ⟨before, sign, between, after, signs, _⟩ := writes
  cases isMode : requirement.mode with
  | exact => exact .inl rfl
  | compatible => exact .inr rfl
  | other value =>
    rw [isMode] at signs
    cases signs

/-- The version of a requirement is trimmed and can be read. -/
structure Versioned (requirement : Requirement) : Prop where
  trimmed : Text.trim requirement.version = requirement.version
  readable : ∃ version, Version.parse requirement.version = .ok version

theorem Versioned.trimChars_eq (versioned : requirement.Versioned) :
    Text.trimChars requirement.version.toList = requirement.version.toList := by
  have trimmed := versioned.trimmed
  rwa [Text.trim, ← String.toList_inj, String.toList_ofList] at trimmed

/-! ## Reading -/

/-- A trimmed text is the sign, the blanks and the version that it is split into. -/
theorem split_sound (trimmed : Text.trimChars chars = chars) :
    ∃ sign between, Signs (split chars).1 sign ∧ (∀ c ∈ between, Text.isBlank c = true) ∧
      chars = sign ++ (between ++ (split chars).2) ∧
        Text.trimChars (split chars).2 = (split chars).2 := by
  -- The end of the text is trimmed already, so only blanks after the sign are left to take off.
  have signed (sign : Char) (rest : List Char)
      (trimmed : Text.trimChars (sign :: rest) = sign :: rest) :
      rest = rest.takeWhile Text.isBlank ++ Text.trimChars rest := by
    have ended : Text.trimEnd rest = rest :=
      Text.trimEnd_of_append [sign] (Text.trimEnd_of_trimChars trimmed)
    have after : Text.trimEnd (rest.dropWhile Text.isBlank) = rest.dropWhile Text.isBlank := by
      refine Text.trimEnd_of_append (rest.takeWhile Text.isBlank) ?_
      rw [List.takeWhile_append_dropWhile]
      exact ended
    rw [Text.trimChars, after, List.takeWhile_append_dropWhile]
  unfold split
  split
  · next rest =>
    refine ⟨['='], rest.takeWhile Text.isBlank, .exact, ?_, ?_, Text.trimChars_trimChars rest⟩
    · exact fun c present => List.mem_takeWhile_imp present
    · exact congrArg ('=' :: ·) (signed '=' rest trimmed)
  · next rest =>
    refine ⟨['^'], rest.takeWhile Text.isBlank, .caret, ?_, ?_, Text.trimChars_trimChars rest⟩
    · exact fun c present => List.mem_takeWhile_imp present
    · exact congrArg ('^' :: ·) (signed '^' rest trimmed)
  · exact ⟨[], [], .bare, List.forall_mem_nil _, rfl, trimmed⟩

/-- A sign, blanks and the parts of a version are split into the sign and the version. -/
theorem split_of_signs {major minor patch suffix : List Char} (signs : Signs mode sign)
    (blank : ∀ c ∈ between, Text.isBlank c = true)
    (parts : Version.Parts Text.isDigit version major minor patch suffix) :
    split (Text.trimChars (sign ++ (between ++ version))) = (mode, version) := by
  have unblank := parts.unblank fun _ => Text.isBlank_of_isDigit
  have nonempty : version ≠ [] := by
    rw [parts.whole]
    exact List.append_ne_nil_of_left_ne_nil parts.nonempty _
  have trimmed : Text.trimChars (between ++ version) = version := by
    rw [Text.trimChars_append_left blank, Text.trimChars_of_unblank unblank]
  have signed (c : Char) (visible : Text.isBlank c = false) :
      Text.trimChars (c :: (between ++ version)) = c :: (between ++ version) := by
    rw [Text.trimChars, List.dropWhile_cons_of_neg (by simp [visible])]
    exact Text.trimEnd_append (c :: between) nonempty unblank
  cases signs with
  | exact =>
    rw [List.singleton_append, signed '=' (by decide)]
    exact congrArg (ContractMode.exact, ·) trimmed
  | caret =>
    rw [List.singleton_append, signed '^' (by decide)]
    exact congrArg (ContractMode.compatible, ·) trimmed
  | bare =>
    -- A version begins with a digit, so nothing of it is taken for a sign.
    rw [List.nil_append, trimmed]
    cases begins : major with
    | nil => exact absurd begins parts.nonempty
    | cons first rest =>
      have digit := parts.majorDigits first (by rw [begins]; exact List.mem_cons_self)
      rw [parts.whole, begins, List.cons_append]
      unfold split
      split
      · next head =>
        cases head
        exact absurd digit (by decide)
      · next head =>
        cases head
        exact absurd digit (by decide)
      · rfl

theorem Versioned.split_eq (versioned : requirement.Versioned) (writes : Writes chars requirement) :
    split (Text.trimChars chars) = (requirement.mode, requirement.version.toList) := by
  obtain ⟨before, sign, between, after, signs, beforeBlank, betweenBlank, afterBlank, rfl⟩ := writes
  obtain ⟨version, read⟩ := versioned.readable
  obtain ⟨runs, suffix, spelled, _⟩ := Version.parse_eq_ok_iff.1 read
  rw [versioned.trimChars_eq] at spelled
  rw [Text.trimChars_append_left beforeBlank, Text.trimChars_append_right afterBlank,
    split_of_signs signs betweenBlank spelled.parts]

theorem parse_eq (text : String) :
    parse text = (Version.parse (String.ofList (split (Text.trimChars text.toList)).2)).map fun _ =>
      ⟨String.ofList (split (Text.trimChars text.toList)).2,
        (split (Text.trimChars text.toList)).1⟩ := by
  show (Version.parse (String.ofList (split (Text.trimChars text.toList)).2) >>= fun _ => _) = _
  cases Version.parse (String.ofList (split (Text.trimChars text.toList)).2) with
  | error error => rfl
  | ok version => rfl

/-- What is read from a text is the requirement that it writes, with a trimmed version that can be
read. -/
theorem parse_eq_ok_iff {text : String} :
    parse text = .ok requirement ↔ requirement.Versioned ∧ Writes text.toList requirement := by
  rw [parse_eq, map_eq_ok_iff]
  constructor
  · rintro ⟨version, read, rfl⟩
    obtain ⟨sign, between, signs, betweenBlank, cut, trimmed⟩ :=
      split_sound (Text.trimChars_trimChars text.toList)
    obtain ⟨before, after, beforeBlank, afterBlank, whole⟩ := Text.exists_blanks text.toList
    refine ⟨⟨?_, version, read⟩, before, sign, between, after, signs, beforeBlank, betweenBlank,
      afterBlank, ?_⟩
    · rw [Text.trim, String.toList_ofList, trimmed]
    · rw [String.toList_ofList, ← cut]
      exact whole
  · rintro ⟨versioned, writes⟩
    rw [versioned.split_eq writes, String.ofList_toList]
    obtain ⟨version, read⟩ := versioned.readable
    exact ⟨version, read, rfl⟩

/-- Blanks around a requirement text do not count. -/
theorem parse_around {before after : String} (text : String)
    (beforeBlank : ∀ c ∈ before.toList, Text.isBlank c = true)
    (afterBlank : ∀ c ∈ after.toList, Text.isBlank c = true) :
    parse (before ++ text ++ after) = parse text := by
  have trimmed : Text.trimChars (before ++ text ++ after).toList = Text.trimChars text.toList := by
    rw [String.toList_append, String.toList_append, Text.trimChars_append_right afterBlank,
      Text.trimChars_append_left beforeBlank]
  rw [parse_eq, parse_eq, trimmed]

/-- A version that can be read, after a sign, is read as the requirement that it writes. -/
theorem Versioned.parse_of_signs (versioned : requirement.Versioned)
    (signs : Signs requirement.mode sign) {text : String}
    (whole : text.toList = sign ++ requirement.version.toList) : parse text = .ok requirement := by
  refine parse_eq_ok_iff.2 ⟨versioned, [], sign, [], [], signs, List.forall_mem_nil _,
    List.forall_mem_nil _, List.forall_mem_nil _, ?_⟩
  simpa using whole

end Requirement

namespace Contract

variable {ν : Type} [Label ν] {artifact : ν} {contract : Contract ν}

/-! ## Contracts -/

theorem parse_eq_ok_iff {text : String} : parse artifact text = .ok contract ↔
    ∃ requirement, Requirement.parse text = .ok requirement ∧
      ofRequirement artifact requirement = contract := by
  rw [parse, bind_eq_ok_iff]
  simp only [pure_eq_ok, Except.ok.injEq]

/-- What a requirement text is read to: a contract on the given artifact, of a known mode, with a
version that is a text and can be read. -/
theorem sound_of_parse {text : String} (parsed : parse artifact text = .ok contract) :
    contract.artifact = artifact ∧ (contract.mode = .exact ∨ contract.mode = .compatible) ∧
      contract.version = ofText (shown contract.version) ∧
        ∃ version, Version.parse (shown contract.version) = .ok version := by
  obtain ⟨requirement, read, rfl⟩ := parse_eq_ok_iff.1 parsed
  obtain ⟨versioned, writes⟩ := Requirement.parse_eq_ok_iff.1 read
  refine ⟨rfl, writes.known, ?_, ?_⟩
  · rw [ofRequirement, shown_ofText]
  · rw [ofRequirement, shown_ofText]
    exact versioned.readable

/-- The text of a contract is its version, for an exact pin after the sign of one. -/
theorem shown_requirement (artifact : ν) {requirement : Requirement} :
    shown (ofRequirement artifact requirement).requirement =
      if requirement.mode = .exact then "=" ++ requirement.version else requirement.version := by
  obtain ⟨version, mode⟩ := requirement
  cases mode <;> simp [Contract.requirement, ofRequirement, shown_ofText]

/-- A requirement is read back from the text of its contract, and a range also with `^` before that
text. -/
theorem parse_shown (artifact : ν) {requirement : Requirement} (versioned : requirement.Versioned)
    (known : requirement.mode = .exact ∨ requirement.mode = .compatible) :
    Requirement.parse (shown (ofRequirement artifact requirement).requirement) = .ok requirement ∧
      (requirement.mode = .compatible →
        Requirement.parse ("^" ++ shown (ofRequirement artifact requirement).requirement) =
          .ok requirement) := by
  rw [shown_requirement]
  obtain ⟨version, mode⟩ := requirement
  rcases known with rfl | rfl
  · rw [if_pos rfl]
    refine ⟨versioned.parse_of_signs .exact (String.toList_append ..), fun range => ?_⟩
    cases range
  · rw [if_neg (by simp)]
    exact ⟨versioned.parse_of_signs .bare rfl,
      fun _ => versioned.parse_of_signs .caret (String.toList_append ..)⟩

/-- Writing a contract as its requirement and reading it back are inverse. A contract that was read
is read again from its text, also with blanks around it, and that of a range after `^` too. An exact
pin and a range of a trimmed version that can be read are both recovered from their texts. -/
theorem requirement_roundTrip :
    (∀ (artifact : ν) text contract, parse artifact text = .ok contract →
      parse artifact (shown contract.requirement) = .ok contract ∧
        (contract.mode = .compatible →
          parse artifact ("^" ++ shown contract.requirement) = .ok contract) ∧
        ∀ before after : String, (∀ c ∈ before.toList, Text.isBlank c = true) →
          (∀ c ∈ after.toList, Text.isBlank c = true) →
            parse artifact (before ++ shown contract.requirement ++ after) = .ok contract) ∧
    ∀ (artifact : ν) version, Text.trim version = version →
      (∃ numbers, Version.parse version = .ok numbers) →
        ∀ mode, mode = .exact ∨ mode = .compatible →
          parse artifact (shown (Contract.mk artifact (ofText version) mode).requirement) =
            .ok ⟨artifact, ofText version, mode⟩ := by
  constructor
  · intro artifact text contract parsed
    obtain ⟨requirement, read, rfl⟩ := parse_eq_ok_iff.1 parsed
    obtain ⟨versioned, writes⟩ := Requirement.parse_eq_ok_iff.1 read
    obtain ⟨readBack, readCaret⟩ := parse_shown artifact versioned writes.known
    refine ⟨parse_eq_ok_iff.2 ⟨_, readBack, rfl⟩, fun range => ?_, ?_⟩
    · exact parse_eq_ok_iff.2 ⟨_, readCaret range, rfl⟩
    · intro before after beforeBlank afterBlank
      refine parse_eq_ok_iff.2 ⟨_, ?_, rfl⟩
      rw [Requirement.parse_around _ beforeBlank afterBlank, readBack]
  · intro artifact version trimmed readable mode known
    have versioned : Requirement.Versioned ⟨version, mode⟩ := ⟨trimmed, readable⟩
    exact parse_eq_ok_iff.2 ⟨_, (parse_shown artifact versioned known).1, rfl⟩

/-- A range that was read with blanks around it and after `^`, and an exact pin. -/
theorem requirement_roundTrip_caret :
    parse "derive" "\t^ 1.0-rc\n" = .ok ⟨"derive", "1.0-rc", .compatible⟩ ∧
      parse "derive" "1.0-rc" = .ok ⟨"derive", "1.0-rc", .compatible⟩ ∧
      parse "derive" "^1.0-rc" = .ok ⟨"derive", "1.0-rc", .compatible⟩ ∧
      parse "derive" "\u00a01.0-rc\u2003" = .ok ⟨"derive", "1.0-rc", .compatible⟩ ∧
        parse "derive" "=1.0.139" = .ok ⟨"derive", "1.0.139", .exact⟩ := by
  obtain ⟨again, recovered⟩ := requirement_roundTrip (ν := String)
  have range : parse "derive" "\t^ 1.0-rc\n" = .ok ⟨"derive", "1.0-rc", .compatible⟩ := rfl
  obtain ⟨bare, caret, around⟩ := again _ _ _ range
  refine ⟨range, bare, caret rfl, around "\u00a0" "\u2003" ?_ ?_, ?_⟩
  · have chars : "\u00a0".toList = ['\u00a0'] := rfl
    simp only [chars, List.forall_mem_cons]
    exact ⟨by decide, List.forall_mem_nil _⟩
  · have chars : "\u2003".toList = ['\u2003'] := rfl
    simp only [chars, List.forall_mem_cons]
    exact ⟨by decide, List.forall_mem_nil _⟩
  · exact recovered "derive" "1.0.139" rfl ⟨_, rfl⟩ .exact (.inl rfl)

end Contract

end FeatureResolution
