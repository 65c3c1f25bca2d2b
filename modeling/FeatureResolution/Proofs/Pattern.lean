import FeatureResolution.Pattern
import Mathlib.Computability.Language

/-!
# What patterns match

A regular expression denotes a set of texts (`Expression.language`). Its derivative by a character
denotes what may follow that character (`mem_derivative_iff`), since the branches and parts that are
left out on the way denote nothing more (`language_choice`, `language_sequence`). So matching a text
character by character decides whether the expression denotes it (`isMatch_iff`), and a pattern
accepts the texts that it denotes, with or without a line break at the end (`accepts_iff`).

What a written pattern denotes is said form by form: one pattern after another (`mem_next_iff`), an
option (`mem_optional_iff`), a class repeated (`mem_repeated_oneOf_iff`, `mem_nonempty_oneOf_iff`),
a pattern at most so many times (`mem_upTo_succ_iff`).
-/

namespace FeatureResolution

open scoped Computability

namespace Expression

/-- The texts that an expression denotes. -/
def language : Expression → Language Char
  | .never => 0
  | .nothing => 1
  | .one test => {chars | ∃ c, test c = true ∧ chars = [c]}
  | .either first second => first.language + second.language
  | .both first second => first.language * second.language
  | .many body => body.language∗

theorem mem_one_iff {test : Char → Bool} {chars : List Char} :
    chars ∈ (one test).language ↔ ∃ c, test c = true ∧ chars = [c] :=
  Iff.rfl

/-! ## Words of products and closures -/

theorem nil_mem_mul {first second : Language Char} :
    [] ∈ first * second ↔ [] ∈ first ∧ [] ∈ second := by
  simp [Language.mem_mul]

theorem cons_mem_mul {first second : Language Char} {c : Char} {chars : List Char} :
    c :: chars ∈ first * second ↔
      (∃ before after, before ++ after = chars ∧ c :: before ∈ first ∧ after ∈ second) ∨
        ([] ∈ first ∧ c :: chars ∈ second) := by
  rw [Language.mem_mul]
  constructor
  · rintro ⟨word, inFirst, after, inSecond, whole⟩
    cases word with
    | nil => exact .inr ⟨inFirst, whole ▸ inSecond⟩
    | cons head before =>
      obtain ⟨rfl, rest⟩ := List.cons.inj whole
      exact .inl ⟨before, after, rest, inFirst, inSecond⟩
  · rintro (⟨before, after, rfl, inFirst, inSecond⟩ | ⟨empty, inSecond⟩)
    · exact ⟨c :: before, inFirst, after, inSecond, rfl⟩
    · exact ⟨[], empty, c :: chars, inSecond, rfl⟩

/-- A word of a closure begins with a word that is not empty. -/
theorem cons_mem_kstar {body : Language Char} {c : Char} {chars : List Char} :
    c :: chars ∈ body∗ ↔
      ∃ before after, before ++ after = chars ∧ c :: before ∈ body ∧ after ∈ body∗ := by
  constructor
  · intro inClosure
    obtain ⟨words, whole, each⟩ := Language.mem_kstar_iff_exists_nonempty.1 inClosure
    cases words with
    | nil => cases whole
    | cons word rest =>
      obtain ⟨⟨inBody, nonempty⟩, restEach⟩ := List.forall_mem_cons.1 each
      cases word with
      | nil => exact absurd rfl nonempty
      | cons head before =>
        obtain ⟨rfl, tail⟩ := List.cons.inj whole
        exact ⟨before, rest.flatten, tail.symm, inBody,
          Language.join_mem_kstar fun word present => (restEach word present).1⟩
  · rintro ⟨before, after, rfl, inBody, inClosure⟩
    rw [← Language.one_add_self_mul_kstar_eq_kstar]
    exact .inr (Language.append_mem_mul inBody inClosure)

/-- A class repeated denotes the texts of its characters. -/
theorem mem_many_one_iff {test : Char → Bool} {chars : List Char} :
    chars ∈ (many (one test)).language ↔ ∀ c ∈ chars, test c = true := by
  rw [language]
  induction chars with
  | nil => simp [Language.nil_mem_kstar]
  | cons head rest ih =>
    rw [cons_mem_kstar, List.forall_mem_cons, ← ih]
    simp only [mem_one_iff, List.cons.injEq]
    constructor
    · rintro ⟨_, after, rfl, ⟨_, passes, rfl, rfl⟩, inClosure⟩
      exact ⟨passes, inClosure⟩
    · rintro ⟨passes, inClosure⟩
      exact ⟨[], rest, rfl, ⟨head, passes, rfl, rfl⟩, inClosure⟩

/-! ## Matching -/

theorem matchesEmpty_iff {expression : Expression} :
    expression.matchesEmpty = true ↔ [] ∈ expression.language := by
  induction expression with
  | never => simp [matchesEmpty, language]
  | nothing => simp [matchesEmpty, language]
  | one test => simp [matchesEmpty, mem_one_iff]
  | either first second firstIh secondIh =>
    rw [matchesEmpty, Bool.or_eq_true, firstIh, secondIh, language, Language.mem_add]
  | both first second firstIh secondIh =>
    rw [matchesEmpty, Bool.and_eq_true, firstIh, secondIh, language, nil_mem_mul]
  | many body _ => simp [matchesEmpty, language, Language.nil_mem_kstar]

theorem language_choice (first second : Expression) :
    (choice first second).language = first.language + second.language := by
  unfold choice
  split
  · simp [language]
  · simp [language]
  · rfl

theorem language_sequence (first second : Expression) :
    (sequence first second).language = first.language * second.language := by
  unfold sequence
  split
  · simp [language]
  · simp [language]
  · simp [language]
  · rfl

/-- A derivative denotes what may follow a character. -/
theorem mem_derivative_iff {c : Char} {expression : Expression} {chars : List Char} :
    chars ∈ (expression.derivative c).language ↔ c :: chars ∈ expression.language := by
  induction expression generalizing chars with
  | never => exact Iff.rfl
  | nothing => exact ⟨nofun, nofun⟩
  | one test =>
    rw [derivative, mem_one_iff]
    split
    · next passes => simp [language, Language.mem_one, passes]
    · next fails => simp [language, fails]
  | either first second firstIh secondIh =>
    rw [derivative, language_choice, Language.mem_add, firstIh, secondIh, language,
      Language.mem_add]
  | both first second firstIh secondIh =>
    have continued : chars ∈ (sequence (first.derivative c) second).language ↔
        ∃ before after, before ++ after = chars ∧ c :: before ∈ first.language ∧
          after ∈ second.language := by
      rw [language_sequence, Language.mem_mul]
      simp only [firstIh]
      tauto
    rw [language, cons_mem_mul, ← continued, ← matchesEmpty_iff, ← secondIh, derivative]
    split
    · next empty => rw [language_choice, Language.mem_add, and_iff_right empty]
    · next nonempty => rw [or_iff_left fun both => nonempty both.1]
  | many body ih =>
    rw [derivative, language_sequence, language, cons_mem_kstar, Language.mem_mul]
    simp only [ih]
    tauto

/-- An expression matches the texts that it denotes. -/
theorem isMatch_iff {expression : Expression} {chars : List Char} :
    expression.isMatch chars = true ↔ chars ∈ expression.language := by
  induction chars generalizing expression with
  | nil => exact matchesEmpty_iff
  | cons c rest ih => rw [← mem_derivative_iff, ← ih, isMatch, isMatch, List.foldl_cons]

end Expression

namespace Pattern

/-- The texts that a pattern denotes. -/
def language (pattern : Pattern) : Language Char :=
  pattern.expression.language

theorem accepts_iff {pattern : Pattern} {text : String} :
    pattern.accepts text = true ↔
      text.toList ∈ pattern.language ∨ withoutLineBreak text.toList ∈ pattern.language := by
  rw [accepts, Bool.or_eq_true, Expression.isMatch_iff, Expression.isMatch_iff]
  exact Iff.rfl

/-! ## Written forms -/

variable {chars : List Char} {first second body : Pattern}

theorem mem_next_iff :
    chars ∈ (next first second).language ↔
      ∃ before ∈ first.language, ∃ after ∈ second.language, before ++ after = chars :=
  Language.mem_mul

theorem mem_optional_iff :
    chars ∈ (optional body).language ↔ chars = [] ∨ chars ∈ body.language :=
  Iff.rfl

theorem mem_literal_iff {c : Char} : chars ∈ (literal c).language ↔ chars = [c] := by
  rw [language, expression, Expression.mem_one_iff]
  simp

theorem mem_oneOf_iff {items : List ClassItem} :
    chars ∈ (oneOf items).language ↔
      ∃ c, items.any (·.covers c) = true ∧ chars = [c] :=
  Iff.rfl

theorem mem_repeated_oneOf_iff {items : List ClassItem} :
    chars ∈ (repeated (oneOf items)).language ↔
      ∀ c ∈ chars, items.any (·.covers c) = true :=
  Expression.mem_many_one_iff

theorem mem_repeated_blank_iff :
    chars ∈ (repeated blank).language ↔ ∀ c ∈ chars, Text.isBlank c = true :=
  Expression.mem_many_one_iff

theorem mem_nonempty_iff :
    chars ∈ (nonempty body).language ↔
      ∃ before ∈ body.language, ∃ after ∈ (repeated body).language, before ++ after = chars :=
  Language.mem_mul

theorem mem_nonempty_oneOf_iff {items : List ClassItem} :
    chars ∈ (nonempty (oneOf items)).language ↔
      chars ≠ [] ∧ ∀ c ∈ chars, items.any (·.covers c) = true := by
  rw [mem_nonempty_iff]
  simp only [mem_oneOf_iff, mem_repeated_oneOf_iff]
  constructor
  · rintro ⟨_, ⟨c, covered, rfl⟩, after, restCovered, rfl⟩
    exact ⟨List.cons_ne_nil c after, List.forall_mem_cons.2 ⟨covered, restCovered⟩⟩
  · rintro ⟨notEmpty, allCovered⟩
    cases chars with
    | nil => exact absurd rfl notEmpty
    | cons head rest =>
      obtain ⟨covered, restCovered⟩ := List.forall_mem_cons.1 allCovered
      exact ⟨[head], ⟨head, covered, rfl⟩, rest, restCovered, rfl⟩

theorem mem_upTo_zero_iff : chars ∈ (upTo body 0).language ↔ chars = [] :=
  Iff.rfl

theorem mem_upTo_succ_iff {most : Nat} :
    chars ∈ (upTo body (most + 1)).language ↔ chars = [] ∨
      ∃ before ∈ body.language, ∃ after ∈ (upTo body most).language, before ++ after = chars :=
  Iff.rfl

end Pattern

end FeatureResolution
