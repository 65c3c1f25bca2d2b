/-!
# Blank characters

`isBlank` is the property "white space" together with the four information separators
U+001C to U+001F. Everything that trims or splits a text here uses this one class:

* `trim` removes blanks at both ends and nothing inside;
* `words` cuts a text at the characters of a separator class and keeps the non-empty pieces.
-/

namespace FeatureResolution.Text

/-- Whether a character is white space or an information separator. -/
def isBlank (c : Char) : Bool :=
  let code := c.toNat
  (0x09 ≤ code && code ≤ 0x0D) || (0x1C ≤ code && code ≤ 0x20) || code == 0x85 || code == 0xA0 ||
    code == 0x1680 || (0x2000 ≤ code && code ≤ 0x200A) || code == 0x2028 || code == 0x2029 ||
    code == 0x202F || code == 0x205F || code == 0x3000

/-- Removes the blanks at the end of a text. -/
def trimEnd (chars : List Char) : List Char :=
  (chars.reverse.dropWhile isBlank).reverse

/-- Removes the blanks at both ends of a text. -/
def trimChars (chars : List Char) : List Char :=
  trimEnd (chars.dropWhile isBlank)

/-- Removes the blanks at both ends of a text. -/
def trim (text : String) : String :=
  String.ofList (trimChars text.toList)

/-- The pieces between separators, empty ones included: one more than there are separators. -/
def pieces {α : Type} (isSeparator : α → Bool) : List α → List (List α)
  | [] => [[]]
  | c :: rest =>
    if isSeparator c then [] :: pieces isSeparator rest
    else
      match pieces isSeparator rest with
      | [] => [[c]]
      | piece :: more => (c :: piece) :: more

/-- The non-empty pieces between separators. -/
def words (isSeparator : Char → Bool) (text : String) : List String :=
  ((pieces isSeparator text.toList).filter (!·.isEmpty)).map String.ofList

end FeatureResolution.Text
