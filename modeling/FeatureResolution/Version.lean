import FeatureResolution.Error
import FeatureResolution.Text.Blank
import FeatureResolution.Text.Digit

/-!
# Versions

A version text is one, two or three dotted runs of decimal digits and an optional suffix: a sign,
`-` or `+`, and any letters, digits, dots and signs after it. Blanks around it do not count. Only
the three numbers are kept; a missing one is zero.
-/

namespace FeatureResolution

/-- The numeric part of a version. -/
structure Version where
  major : Nat
  minor : Nat
  patch : Nat
deriving DecidableEq, Repr, Inhabited

namespace Version

/-- Takes a dotted run of digits off the front, if one stands there. -/
def component : List Char → List Char × List Char
  | '.' :: rest =>
    let digits := rest.takeWhile Text.isDigit
    if digits.isEmpty then ([], '.' :: rest) else (digits, rest.dropWhile Text.isDigit)
  | rest => ([], rest)

/-- The characters allowed after the sign of a suffix. -/
def isSuffixChar (c : Char) : Bool :=
  c.isAlphanum || c == '.' || c == '+' || c == '-'

/-- Whether a text is empty or a suffix. -/
def isSuffix : List Char → Bool
  | [] => true
  | c :: rest => (c == '-' || c == '+') && rest.all isSuffixChar

/-- The three runs of digits of a version text, the missing ones empty. -/
def runs? (chars : List Char) : Option (List Char × List Char × List Char) :=
  let major := chars.takeWhile Text.isDigit
  let (minor, afterMinor) := component (chars.dropWhile Text.isDigit)
  let (patch, suffix) := component afterMinor
  if !major.isEmpty && isSuffix suffix then some (major, minor, patch) else none

/-- The number a run of digits denotes, unless the run is too long. -/
def numeral (digits : List Char) : Except Error Nat :=
  if digits.length ≤ Text.digitLimit then .ok (Text.numeralValue digits)
  else .error (.fault (.numeralTooLong digits.length))

/-- Reads a version text. -/
def parse (text : String) : Except Error Version :=
  match runs? (Text.trimChars text.toList) with
  | none => .error (.fault (.notVersion text))
  | some (major, minor, patch) => do
    return ⟨← numeral major, ← numeral minor, ← numeral patch⟩

/-- Whether a version may stand in for a required one: same major, and a minor not below. -/
def Satisfies (found required : Version) : Prop :=
  found.major = required.major ∧ required.minor ≤ found.minor

instance (found required : Version) : Decidable (found.Satisfies required) :=
  inferInstanceAs (Decidable (_ ∧ _))

end Version

end FeatureResolution
