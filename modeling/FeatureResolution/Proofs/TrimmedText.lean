import FeatureResolution.Text.Blank
import Mathlib.Data.List.DropRight
import Mathlib.Data.List.TakeWhile

/-!
# Trimmed texts

A text is what trimming leaves of it with blanks before and behind (`exists_blanks`), so trimming
leaves nothing just when there are blanks only (`trimChars_eq_nil_iff`). Blanks put around a text do
not count (`trimChars_append_left`, `trimChars_append_right`), and what has been trimmed is not
trimmed further (`trimChars_trimChars`).
-/

namespace FeatureResolution.Text

variable {chars : List Char}

theorem trimEnd_append (before : List Char) {body : List Char} (nonempty : body ≠ [])
    (unblank : ∀ c ∈ body, isBlank c = false) : trimEnd (before ++ body) = before ++ body := by
  have stops : (before ++ body).reverse.dropWhile isBlank = (before ++ body).reverse := by
    rw [List.reverse_append]
    cases reversed : body.reverse with
    | nil => exact absurd (List.reverse_eq_nil_iff.1 reversed) nonempty
    | cons last rest =>
      have inBody : last ∈ body := by
        rw [← List.mem_reverse, reversed]
        exact List.mem_cons_self
      rw [List.cons_append, List.dropWhile_cons_of_neg (by simp [unblank last inBody])]
  rw [trimEnd, stops, List.reverse_reverse]

theorem trimChars_of_unblank (unblank : ∀ c ∈ chars, isBlank c = false) :
    trimChars chars = chars := by
  cases chars with
  | nil => rfl
  | cons head rest =>
    have first : isBlank head = false := unblank head List.mem_cons_self
    rw [trimChars, List.dropWhile_cons_of_neg (by simp [first])]
    exact trimEnd_append [] (List.cons_ne_nil head rest) unblank

/-- Blanks in front do not count. -/
theorem trimChars_append_left {blanks : List Char} (blank : ∀ c ∈ blanks, isBlank c = true)
    (chars : List Char) : trimChars (blanks ++ chars) = trimChars chars := by
  rw [trimChars, List.dropWhile_append_of_pos blank, trimChars]

/-- Blanks at the end do not count. -/
theorem trimChars_append_right {blanks : List Char} (blank : ∀ c ∈ blanks, isBlank c = true)
    (chars : List Char) : trimChars (chars ++ blanks) = trimChars chars := by
  have ended (kept : List Char) : trimEnd (kept ++ blanks) = trimEnd kept := by
    rw [trimEnd, List.reverse_append, List.dropWhile_append_of_pos (by simpa using blank), trimEnd]
  rw [trimChars, List.dropWhile_append, trimChars]
  split
  · next gone => rw [List.isEmpty_iff.1 gone, List.dropWhile_eq_nil_iff.2 blank]
  · exact ended _

/-- A text is what trimming leaves of it and blanks around that. -/
theorem exists_blanks (chars : List Char) : ∃ before after,
    (∀ c ∈ before, isBlank c = true) ∧ (∀ c ∈ after, isBlank c = true) ∧
      chars = before ++ (trimChars chars ++ after) := by
  refine ⟨chars.takeWhile isBlank, (chars.dropWhile isBlank).rtakeWhile isBlank, ?_, ?_, ?_⟩
  · exact fun c present => List.mem_takeWhile_imp present
  · exact fun c present => List.mem_rtakeWhile_imp present
  · have kept : trimChars chars ++ (chars.dropWhile isBlank).rtakeWhile isBlank =
        chars.dropWhile isBlank := List.rdropWhile_append_rtakeWhile ..
    rw [kept, List.takeWhile_append_dropWhile]

/-- Nothing more is trimmed the second time. -/
theorem trimChars_trimChars (chars : List Char) :
    trimChars (trimChars chars) = trimChars chars := by
  have starts : (trimChars chars).dropWhile isBlank = trimChars chars := by
    refine List.dropWhile_eq_self_iff.2 fun nonempty => ?_
    have front : trimChars chars <+: chars.dropWhile isBlank := List.rdropWhile_prefix ..
    rw [front.getElem nonempty]
    exact List.dropWhile_eq_self_iff.1 (List.dropWhile_idempotent ..) _
  have ends : trimEnd (trimChars chars) = trimChars chars := List.rdropWhile_idempotent ..
  rw [trimChars, starts, ends]

theorem trim_trim (text : String) : trim (trim text) = trim text := by
  rw [trim, trim, String.toList_ofList, trimChars_trimChars]

/-- Trimming removes nothing at the end of what a trimmed text ends with. -/
theorem trimEnd_of_append (before : List Char) {body : List Char}
    (kept : trimEnd (before ++ body) = before ++ body) : trimEnd body = body := by
  refine List.rdropWhile_eq_self_iff.2 fun nonempty => ?_
  have last := List.rdropWhile_eq_self_iff.1 kept (List.append_ne_nil_of_right_ne_nil _ nonempty)
  rwa [List.getLast_append_of_right_ne_nil _ _ nonempty] at last

/-- A trimmed text has no blank at its end. -/
theorem trimEnd_of_trimChars (trimmed : trimChars chars = chars) : trimEnd chars = chars := by
  have ends : trimEnd (trimChars chars) = trimChars chars := List.rdropWhile_idempotent ..
  rwa [trimmed] at ends

/-- Nothing is left of a text of blanks. -/
theorem trimChars_eq_nil_iff : trimChars chars = [] ↔ ∀ c ∈ chars, isBlank c = true := by
  constructor
  · intro nothing
    obtain ⟨before, after, beforeBlank, afterBlank, whole⟩ := exists_blanks chars
    rw [whole, nothing, List.nil_append, List.forall_mem_append]
    exact ⟨beforeBlank, afterBlank⟩
  · intro blank
    have trimmed := trimChars_append_left blank []
    rwa [List.append_nil] at trimmed

end FeatureResolution.Text
