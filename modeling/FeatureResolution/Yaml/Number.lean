import FeatureResolution.Text.Blank
import FeatureResolution.Text.Lower
import FeatureResolution.Yaml.Tag

/-!
# Numbers in words

The value of a word that is tagged as a number. Underscores do not count, and a sign may precede the
number. A whole number is in base two or sixteen behind `0b` or `0x`, in base eight behind a zero,
in base sixty where its parts stand between colons, and in base ten otherwise; a decimal number can
have parts between colons too. A tag can be given to any word, so each part may turn out to be no
number. Words are rows of code points.
-/

namespace FeatureResolution.Yaml

/-- The characters of a row of code points. -/
def charsOf (codes : List Nat) : List Char :=
  codes.map Text.charOf

/-- A sign at the front of a word, and what follows it. -/
def leadingSign (chars : List Char) : Bool × List Char :=
  (chars.head? == some '-', unsigned chars)

/-- A word without underscores. -/
def withoutLines (codes : List Nat) : List Nat :=
  codes.filter fun code => Text.charOf code != '_'

/-- A word cut behind its sign; a number has at least one character. -/
def signedWord (word : List Nat) : Except Fault (Bool × List Nat) :=
  match charsOf word with
  | [] => .error .emptyNumber
  | chars@(first :: _) =>
    .ok (first == '-', word.drop (chars.length - (unsigned chars).length))

/-- Whether a character is a blank around a number: the information separators are none. -/
def isNumberBlank (c : Char) : Bool :=
  Text.isBlank c && !(0x1C ≤ c.toNat && c.toNat ≤ 0x1F)

/-- Characters without the blanks around them. -/
def withoutBlanks (chars : List Char) : List Char :=
  ((chars.dropWhile isNumberBlank).reverse.dropWhile isNumberBlank).reverse

/-- The parts of a word between colons. -/
def colonParts (codes : List Nat) : List (List Nat) :=
  Text.pieces (fun code => Text.charOf code == ':') codes

/-! ## Whole numbers -/

/-- The value of a digit in a base, which may be of any script. -/
def digitIn? (base : Nat) (c : Char) : Option Nat :=
  (Text.digitValue? c <|> hexValue? c).filter (· < base)

/-- The letter that marks a base. -/
def baseLetter? (base : Nat) : Option Char :=
  [(2, 'b'), (8, 'o'), (16, 'x')].lookup base

/-- Digits without the mark of their base. -/
def withoutMark (base : Nat) : List Char → List Char
  | '0' :: letter :: digits =>
    if baseLetter? base == some letter.toLower then digits else '0' :: letter :: digits
  | digits => digits

/-- The whole number that a word denotes in a base, with a sign, blanks around it or the mark of the
base before it. In base ten the number of digits is limited, whatever follows them. -/
def wholeNumber (base : Nat) (codes : List Nat) : Except Fault Int :=
  let (negative, body) := leadingSign (withoutBlanks (charsOf codes))
  let digits := withoutMark base body
  let front := digits.takeWhile fun c => (digitIn? base c).isSome
  if base = 10 && Text.digitLimit < front.length then .error (.numeralTooLong front.length)
  else
    match digits.mapM (digitIn? base) with
    | some (first :: rest) =>
      let size : Nat := rest.foldl (fun value digit => value * base + digit) first
      .ok (if negative then -size else size)
    | _ => .error (.notWhole base (.ofCodes codes))

/-- A whole number in base sixty. -/
def sexagesimal (codes : List Nat) : Except Fault Int := do
  let parts ← (colonParts codes).mapM (wholeNumber 10)
  return parts.foldl (fun value part => value * 60 + part) 0

/-- A whole number behind the sign of its word. -/
def wholeBody (codes : List Nat) : Except Fault Int :=
  match charsOf codes with
  | [] => .error .emptyNumber
  | '0' :: 'b' :: _ => wholeNumber 2 (codes.drop 2)
  | '0' :: 'x' :: _ => wholeNumber 16 (codes.drop 2)
  | ['0'] => .ok 0
  | '0' :: _ => wholeNumber 8 codes
  | chars => if chars.contains ':' then sexagesimal codes else wholeNumber 10 codes

/-- The whole number that a word denotes. -/
def wholeWord (codes : List Nat) : Except Fault Int := do
  let (negative, body) ← signedWord (withoutLines codes)
  let value ← wholeBody body
  return if negative then -value else value

/-! ## Decimal numbers -/

/-- An exponent with an optional sign; no characters are the exponent zero. -/
def exponent? : List Char → Option Int
  | [] => some 0
  | e :: rest =>
    let (negative, digits) := leadingSign rest
    if e.toLower = 'e' && !digits.isEmpty && digits.all Text.isDigit then
      let size : Int := Text.numeralValue digits
      some (if negative then -size else size)
    else none

/-- The size of a decimal number. -/
def decimalSize? (chars : List Char) : Option Binary64 := do
  let whole := chars.takeWhile Text.isDigit
  let rest := chars.dropWhile Text.isDigit
  let (fraction, rest) :=
    match rest with
    | '.' :: rest => (rest.takeWhile Text.isDigit, rest.dropWhile Text.isDigit)
    | _ => ([], rest)
  let exponent ← exponent? rest
  if (whole ++ fraction).isEmpty then none
  else
    some (Binary64.ofDecimal false (Text.numeralValue (whole ++ fraction))
      (exponent - fraction.length))

/-- The decimal number that a word denotes, with a sign or blanks around it. -/
def decimalNumber (codes : List Nat) : Except Fault Binary64 :=
  let (negative, body) := leadingSign (withoutBlanks (charsOf codes))
  let word := String.ofList body
  let size :=
    if ["inf", "infinity"].contains word then some (.infinite false)
    else if word = "nan" then some .notNumber
    else decimalSize? body
  match size with
  | some size => .ok (if negative then size.negate else size)
  | none => .error (.notDecimal (.ofCodes codes))

/-- The sum of the parts of a decimal number in base sixty, the last part first. -/
def sexagesimalSum (sum : Binary64) (factor : Nat) : List Binary64 → Except Fault Binary64
  | [] => .ok sum
  | part :: rest =>
    match Binary64.ofNat? factor with
    | some size => sexagesimalSum (sum.add (part.multiply size)) (factor * 60) rest
    | none => .error .beyondDecimals

/-- A decimal number behind the sign of its word. -/
def decimalBody (codes : List Nat) : Except Fault Binary64 :=
  let chars := charsOf codes
  if chars = ['.', 'i', 'n', 'f'] then .ok (.infinite false)
  else if chars.contains ':' then do
    let parts ← (colonParts codes).mapM decimalNumber
    sexagesimalSum (.finite false 0 0) 1 parts.reverse
  else decimalNumber codes

/-- The decimal number that a word denotes. One spelling is the common value that is no number;
every other word that comes to none is a value of its own, with the given mark. -/
def decimalWord (mark : Nat) (codes : List Nat) : Except Fault Scalar := do
  let (negative, body) ← signedWord (Text.lowerCodes (withoutLines codes))
  if charsOf body = ['.', 'n', 'a', 'n'] then return .decimal .notNumber
  match ← decimalBody body with
  | .notNumber => return .notNumber mark
  | value => return .decimal (if negative then value.negate else value)

end FeatureResolution.Yaml
