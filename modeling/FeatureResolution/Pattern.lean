import FeatureResolution.Text.Blank

/-!
# Text patterns

A `Pattern` is a regular expression as it is written in a schema. `Pattern.source` is its written
form, which messages quote, and `Pattern.accepts` says which texts it matches from end to end; as
usual for such patterns, one line break after the match does not count.

Matching goes through `Expression`, the regular expressions of the theory: `Expression.derivative`
takes a first character off, and a text matches when nothing is left to match after its last one.
-/

namespace FeatureResolution

/-! ## Regular expressions -/

/-- Regular expressions over characters. -/
inductive Expression where
  | never
  | nothing
  | one (test : Char → Bool)
  | either (first second : Expression)
  | both (first second : Expression)
  | many (body : Expression)

namespace Expression

/-- Whether an expression matches the empty text. -/
def matchesEmpty : Expression → Bool
  | .never => false
  | .nothing => true
  | .one _ => false
  | .either first second => first.matchesEmpty || second.matchesEmpty
  | .both first second => first.matchesEmpty && second.matchesEmpty
  | .many _ => true

/-- The choice between two expressions, without the branches that never match. -/
def choice : Expression → Expression → Expression
  | .never, second => second
  | first, .never => first
  | first, second => .either first second

/-- One expression after another, without the parts that match nothing. -/
def sequence : Expression → Expression → Expression
  | .never, _ => .never
  | _, .never => .never
  | .nothing, second => second
  | first, second => .both first second

/-- What remains to be matched after a first character. -/
def derivative (c : Char) : Expression → Expression
  | .never => .never
  | .nothing => .never
  | .one test => if test c then .nothing else .never
  | .either first second => choice (first.derivative c) (second.derivative c)
  | .both first second =>
    let continued := sequence (first.derivative c) second
    if first.matchesEmpty then choice continued (second.derivative c) else continued
  | .many body => sequence (body.derivative c) (.many body)

/-- Whether an expression matches a whole text. -/
def isMatch (expression : Expression) (chars : List Char) : Bool :=
  (chars.foldl (fun rest c => rest.derivative c) expression).matchesEmpty

end Expression

/-! ## Written patterns -/

/-- A part of a character class. -/
inductive ClassItem where
  | single (c : Char)
  | range (first last : Char)
deriving DecidableEq, Repr

/-- A pattern as it is written. -/
inductive Pattern where
  /-- A character that stands for itself. -/
  | literal (c : Char)
  /-- One character of a class. -/
  | oneOf (items : List ClassItem)
  /-- One blank. -/
  | blank
  /-- A pattern in parentheses. -/
  | group (body : Pattern)
  /-- Two patterns one after the other. -/
  | next (first second : Pattern)
  /-- At most once. -/
  | optional (body : Pattern)
  /-- Any number of times. -/
  | repeated (body : Pattern)
  /-- At least once. -/
  | nonempty (body : Pattern)
  /-- At most a given number of times. -/
  | upTo (body : Pattern) (most : Nat)
deriving DecidableEq, Repr

namespace ClassItem

/-- The written form of a part of a class. -/
def source : ClassItem → List Char
  | .single c => [c]
  | .range first last => [first, '-', last]

/-- Whether a character is in a part of a class. -/
def covers (c : Char) : ClassItem → Bool
  | .single d => c == d
  | .range first last => first ≤ c && c ≤ last

end ClassItem

namespace Pattern

/-- The written form of a literal: a dot is escaped. -/
def literalSource (c : Char) : List Char :=
  if c = '.' then ['\\', '.'] else [c]

/-- The written form of a pattern. -/
def sourceChars : Pattern → List Char
  | .literal c => literalSource c
  | .oneOf items => '[' :: items.flatMap ClassItem.source ++ [']']
  | .blank => ['\\', 's']
  | .group body => '(' :: body.sourceChars ++ [')']
  | .next first second => first.sourceChars ++ second.sourceChars
  | .optional body => body.sourceChars ++ ['?']
  | .repeated body => body.sourceChars ++ ['*']
  | .nonempty body => body.sourceChars ++ ['+']
  | .upTo body most =>
    body.sourceChars ++ Char.ofNat 0x7B :: '0' :: ',' :: Nat.toDigits 10 most ++ [Char.ofNat 0x7D]

/-- The written form of a pattern that has to match from the beginning to the end. -/
def source (pattern : Pattern) : String :=
  String.ofList ('^' :: pattern.sourceChars ++ ['$'])

/-- An expression at most the given number of times. -/
def atMost (body : Expression) : Nat → Expression
  | 0 => .nothing
  | most + 1 => .either .nothing (.both body (atMost body most))

/-- The regular expression of a pattern. -/
def expression : Pattern → Expression
  | .literal c => .one (· == c)
  | .oneOf items => .one fun c => items.any (·.covers c)
  | .blank => .one Text.isBlank
  | .group body => body.expression
  | .next first second => .both first.expression second.expression
  | .optional body => .either .nothing body.expression
  | .repeated body => .many body.expression
  | .nonempty body => .both body.expression (.many body.expression)
  | .upTo body most => atMost body.expression most

/-- The text without one line break at its end. -/
def withoutLineBreak (chars : List Char) : List Char :=
  if chars.getLast? = some '\n' then chars.dropLast else chars

/-- Whether a pattern accepts a text, with or without a line break at its end. -/
def accepts (pattern : Pattern) (text : String) : Bool :=
  let chars := text.toList
  pattern.expression.isMatch chars || pattern.expression.isMatch (withoutLineBreak chars)

end Pattern

end FeatureResolution
