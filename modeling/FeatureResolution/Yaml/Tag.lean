import FeatureResolution.Yaml.Quoted

/-!
# Tags

A `Tag` says what a node is. A plain word without a tag is what its spelling suggests: the spellings
of null and of the truth values, whole numbers in base ten, eight, sixteen, two and sixty, decimal
numbers, days and times. Every other word is a text, versions such as `1.0.139` among them. One line
break at the end of a word, which only a quoted one can have, does not count.
-/

namespace FeatureResolution.Yaml

/-- What a node is. A list of pairs has one tag for two names; `default` is the tag of the field
whose value can stand for a whole map. -/
inductive Tag where
  | null
  | bool
  | int
  | float
  | text
  | bytes
  | timestamp
  | list
  | map
  | set
  | pairs
  | merge
  | default
  | other
deriving DecidableEq, Repr

/-- Whether a tag is one of simple values. -/
def Tag.isSimple : Tag → Bool
  | .null | .bool | .int | .float | .text | .bytes | .timestamp => true
  | .list | .map | .set | .pairs | .merge | .default | .other => false

/-- The beginning of the names of common tags. -/
def commonTag (name : String) : String :=
  "tag:yaml.org,2002:" ++ name

/-- The tag of a given name. -/
def Tag.ofName (name : String) : Tag :=
  let known :=
    [("null", Tag.null), ("bool", .bool), ("int", .int), ("float", .float), ("str", .text),
      ("binary", .bytes), ("timestamp", .timestamp), ("seq", .list), ("map", .map), ("set", .set),
      ("omap", .pairs), ("pairs", .pairs), ("merge", .merge), ("value", .default)]
  ((known.find? fun (short, _) => commonTag short = name).map (·.2)).getD .other

/-! ## Spellings -/

/-- The spellings of null. -/
def nullWords : List String :=
  ["", "~", "null", "Null", "NULL"]

/-- The spellings of true. -/
def trueWords : List String :=
  ["yes", "Yes", "YES", "true", "True", "TRUE", "on", "On", "ON"]

/-- The spellings of false. -/
def falseWords : List String :=
  ["no", "No", "NO", "false", "False", "FALSE", "off", "Off", "OFF"]

/-- Whether a character is a digit or an underscore. -/
def isDigitOrLine (c : Char) : Bool :=
  c.isDigit || c == '_'

/-- A word without its sign. -/
def unsigned : List Char → List Char
  | '-' :: rest => rest
  | '+' :: rest => rest
  | rest => rest

/-- Whether a word is one or more groups of a colon and a number below sixty, and then passes a
test. -/
def sexagesimalTail (ending : List Char → Bool) : Nat → List Char → Bool
  | 0, _ => false
  | fuel + 1, chars =>
    let ends (rest : List Char) : Bool := ending rest || sexagesimalTail ending fuel rest
    match chars with
    | ':' :: first :: second :: rest =>
      (first.isDigit && ends (second :: rest)) ||
        ('0' ≤ first && first ≤ '5' && second.isDigit && ends rest)
    | [':', only] => only.isDigit && ends []
    | _ => false

/-- Whether a word that begins with a digit other than zero goes on in base sixty. -/
def isSexagesimal (ending : List Char → Bool) (chars : List Char) : Bool :=
  sexagesimalTail ending (chars.length + 1) (chars.dropWhile isDigitOrLine)

/-- Whether a word without sign is a whole number. -/
def isWhole : List Char → Bool
  | ['0'] => true
  | '0' :: 'b' :: digits => !digits.isEmpty && digits.all fun c => c == '0' || c == '1' || c == '_'
  | '0' :: 'x' :: digits =>
    !digits.isEmpty && digits.all fun c => (hexValue? c).isSome || c == '_'
  | '0' :: digits => digits.all fun c => ('0' ≤ c && c ≤ '7') || c == '_'
  | c :: rest =>
    c.isDigit && (rest.all isDigitOrLine || isSexagesimal List.isEmpty rest)
  | [] => false

/-- Whether a word is an exponent, which needs a sign, or nothing. -/
def isExponent : List Char → Bool
  | [] => true
  | e :: sign :: digits =>
    (e == 'e' || e == 'E') && (sign == '+' || sign == '-') && !digits.isEmpty &&
      digits.all Char.isDigit
  | _ => false

/-- Whether a word is a point, digits and an exponent or nothing. -/
def isFraction : List Char → Bool
  | '.' :: rest => isExponent (rest.dropWhile isDigitOrLine)
  | _ => false

/-- Whether a word is a point and digits. -/
def isPlainFraction : List Char → Bool
  | '.' :: rest => rest.all isDigitOrLine
  | _ => false

/-- The spellings of infinity after a point. -/
def infinityWords : List (List Char) :=
  [['i', 'n', 'f'], ['I', 'n', 'f'], ['I', 'N', 'F']]

/-- The spellings of what is no number after a point. -/
def noNumberWords : List (List Char) :=
  [['n', 'a', 'n'], ['N', 'a', 'N'], ['N', 'A', 'N']]

/-- Whether a word is a decimal number. One that begins with a point has no sign. -/
def isDecimal (chars : List Char) : Bool :=
  let body := unsigned chars
  match body with
  | '.' :: rest =>
    infinityWords.contains rest ||
      (body == chars &&
        (noNumberWords.contains rest || (rest.head?.any Char.isDigit && isFraction body)))
  | c :: rest =>
    c.isDigit && (isFraction (rest.dropWhile isDigitOrLine) || isSexagesimal isPlainFraction rest)
  | [] => false

/-! ## Days and times -/

/-- A number of so many digits at the front of a word, the longest first. -/
def leadingNumber (least most : Nat) (chars : List Char) : Option (Nat × List Char) :=
  let digits := (chars.take most).takeWhile Char.isDigit
  if digits.length < least then none
  else some (baseValue 10 digits, chars.drop digits.length)

/-- What follows a given character. -/
def behind (c : Char) : List Char → Option (List Char)
  | [] => none
  | head :: rest => if head = c then some rest else none

/-- Days of the form `2001-12-14`, month and day of at least so many digits. -/
def leadingDay (least : Nat) (chars : List Char) : Option ((Nat × Nat × Nat) × List Char) := do
  let (year, rest) ← leadingNumber 4 4 chars
  let (month, rest) ← leadingNumber least 2 (← behind '-' rest)
  let (day, rest) ← leadingNumber least 2 (← behind '-' rest)
  return ((year, month, day), rest)

/-- A zone behind a time, in minutes; the empty word is no zone. -/
def zone? (chars : List Char) : Option (Option Int) :=
  match chars.dropWhile isInlineBlank with
  | [] => if chars.isEmpty then some none else none
  | ['Z'] => some (some 0)
  | sign :: rest =>
    if sign == '+' || sign == '-' then do
      let (hours, rest) ← leadingNumber 1 2 rest
      let minutes ←
        match rest with
        | [] => some 0
        | _ => do
          let (minutes, rest) ← leadingNumber 2 2 (← behind ':' rest)
          if rest.isEmpty then some minutes else none
      let offset : Int := hours * 60 + minutes
      return some (if sign == '-' then -offset else offset)
    else none

/-- The first six decimal places of a second, filled up with zeros. -/
def microseconds (digits : List Char) : Nat :=
  baseValue 10 ((digits ++ List.replicate 6 '0').take 6)

/-- The time behind a day. -/
def clock? (chars : List Char) : Option ClockTime := do
  let separator :=
    match chars with
    | 'T' :: rest => some rest
    | 't' :: rest => some rest
    | c :: _ => if isInlineBlank c then some (chars.dropWhile isInlineBlank) else none
    | [] => none
  let (hour, rest) ← leadingNumber 1 2 (← separator)
  let (minute, rest) ← leadingNumber 2 2 (← behind ':' rest)
  let (second, rest) ← leadingNumber 2 2 (← behind ':' rest)
  let (fraction, rest) :=
    match rest with
    | '.' :: more => (more.takeWhile Char.isDigit, more.dropWhile Char.isDigit)
    | _ => ([], rest)
  let zone ← zone? rest
  return { hour, minute, second, microsecond := microseconds fraction, zone }

/-- The day or time that a word spells. A day alone has at least so many digits for month and day.
-/
def timestamp? (least : Nat) (chars : List Char) : Option Timestamp :=
  match leadingDay least chars with
  | some ((year, month, day), []) => some { year, month, day, clock := none }
  | _ => do
    let ((year, month, day), rest) ← leadingDay 1 chars
    return { year, month, day, clock := some (← clock? rest) }

/-! ## Words without a tag -/

/-- Words that are marks of something else and so stand for nothing. -/
def bareMarks : List String :=
  ["!", "&", "*"]

/-- A word without one line break at its end, unless it is nothing else. -/
def withoutLastBreak (chars : List Char) : List Char :=
  if chars.length != 1 && chars.getLast? == some '\n' then chars.dropLast else chars

/-- What a word is by its spelling. -/
def Tag.ofWord (chars : List Char) : Tag :=
  let chars := withoutLastBreak chars
  let word := String.ofList chars
  if trueWords.contains word || falseWords.contains word then .bool
  else if isDecimal chars then .float
  else if isWhole (unsigned chars) then .int
  else if word = "<<" then .merge
  else if nullWords.contains word then .null
  else if (timestamp? 2 chars).isSome then .timestamp
  else if word = "=" then .default
  else if bareMarks.contains word then .other
  else .text

end FeatureResolution.Yaml
