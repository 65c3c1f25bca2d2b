/-!
# Sorted texts

Texts are sorted by code point, and values by their texts; values of one text keep their order.
Sorting keeps repeated texts, so it only reorders what it is given (`perm_sortedBy`).
-/

namespace FeatureResolution.Text

/-- Puts a value before the first one whose text is not below its own. -/
def place {α : Type} (text : α → String) (value : α) : List α → List α
  | [] => [value]
  | head :: rest =>
    if text head < text value then head :: place text value rest else value :: head :: rest

/-- Sorts values by their texts. -/
def sortedBy {α : Type} (text : α → String) (values : List α) : List α :=
  values.foldr (place text) []

/-- Sorts texts. -/
def sorted (texts : List String) : List String :=
  sortedBy id texts

theorem perm_place {α : Type} (text : α → String) (value : α) (values : List α) :
    (place text value values).Perm (value :: values) := by
  induction values with
  | nil => exact .refl _
  | cons head rest ih =>
    unfold place
    split
    · exact (ih.cons head).trans (.swap value head rest)
    · exact .refl _

theorem perm_sortedBy {α : Type} (text : α → String) (values : List α) :
    (sortedBy text values).Perm values := by
  induction values with
  | nil => exact .refl _
  | cons head rest ih => exact (perm_place text head _).trans (ih.cons head)

end FeatureResolution.Text
