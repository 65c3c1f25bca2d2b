import FeatureResolution.Yaml.Base64
import FeatureResolution.Yaml.Number

/-!
# Values of tagged words

`wordValue` is the simple value of a word with a tag. A tag can be given to any word; whether the
word has a value of that kind shows here.
-/

namespace FeatureResolution.Yaml

/-- The fault of a node that has no value. -/
def badValue : Fault :=
  .unparsable .value

/-- The truth value that a word spells, in letters of either case. -/
def truthWord (codes : List Nat) : Except Fault Bool :=
  let small := Scalar.ofCodes (Text.lowerCodes codes)
  if trueWords.any (small = .text ·) then .ok true
  else if falseWords.any (small = .text ·) then .ok false
  else .error (.notTruth small)

/-- The bytes that a word of ASCII characters spells. -/
def bytesWord (codes : List Nat) : Except Fault (List UInt8) :=
  if codes.all (· < 0x80) then
    match Base64.decode? (charsOf codes) with
    | some bytes => .ok bytes
    | none => .error badValue
  else .error badValue

/-- The day or time that a word spells, which has to exist. -/
def timestampWord (chars : List Char) : Except Fault Timestamp :=
  match timestamp? 1 (withoutLastBreak chars) with
  | none => .error .missingOperation
  | some timestamp =>
    match timestamp.problem? with
    | some problem => .error (.badTimestamp problem)
    | none => .ok timestamp

/-- The value of a word with a tag. Only tags of simple values give a word a value; one that is no
number gets the given mark. -/
def wordValue (tag : Tag) (mark : Nat) (codes : List Nat) : Except Fault Scalar :=
  match tag with
  | .null => .ok .null
  | .bool => (truthWord codes).map .bool
  | .int => (wholeWord codes).map .int
  | .float => decimalWord mark codes
  | .text => .ok (.ofCodes codes)
  | .bytes => (bytesWord codes).map .bytes
  | .timestamp => (timestampWord (charsOf codes)).map .timestamp
  | .list | .map | .set | .pairs | .merge | .default | .other => .error badValue

end FeatureResolution.Yaml
