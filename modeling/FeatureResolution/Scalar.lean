import FeatureResolution.Binary64.Text
import FeatureResolution.Text.Digit
import FeatureResolution.Text.Quoted
import FeatureResolution.Timestamp

/-!
# Simple values

A `Scalar` is a value without parts: a null, a truth value, a number, a text, a row of bytes or a
timestamp. Simple values name things: the fields of a map, and in tables put together by hand also
flags and artifacts.

As a name a value counts for what it denotes: the whole number one, the decimal `1.0` and the truth
value true are one name, and so are two moments at the same instant. What is no number is no other
value's equal; where several such values are told apart, each has a mark of its own.
`Scalar.rank` is what a value denotes, in an order that keeps values of one family together;
`Rank.before_trans` and `Rank.before_of_not_before` say that this order is linear.
-/

namespace FeatureResolution

/-- A value without parts. A broken text is a row of code points with halves of characters among
them. -/
inductive Scalar where
  | null
  | bool (value : Bool)
  | int (value : Int)
  | decimal (value : Binary64)
  | notNumber (mark : Nat)
  | text (value : String)
  | brokenText (codes : List Nat)
  | bytes (value : List UInt8)
  | timestamp (value : Timestamp)
deriving DecidableEq, Repr, Inhabited

/-! ## Ranks -/

/-- The place of a value in the order of all values: first by group, then by number, then by code
points. -/
structure Rank where
  group : Nat
  number : Int
  codes : List Nat := []
deriving DecidableEq, Repr

namespace Rank

/-- Whether a rank comes before another. -/
def before (first second : Rank) : Bool :=
  decide (first.group < second.group ∨
    first.group = second.group ∧
      (first.number < second.number ∨
        first.number = second.number ∧ first.codes < second.codes))

theorem before_iff {first second : Rank} :
    first.before second = true ↔
      first.group < second.group ∨
        first.group = second.group ∧
          (first.number < second.number ∨
            first.number = second.number ∧ first.codes < second.codes) := by
  simp [before]

theorem before_trans {first second third : Rank} (one : first.before second = true)
    (two : second.before third = true) : first.before third = true := by
  rw [before_iff] at *
  rcases one with one | ⟨groups, one | ⟨numbers, one⟩⟩ <;>
    rcases two with two | ⟨groups', two | ⟨numbers', two⟩⟩
  · exact .inl (Nat.lt_trans one two)
  · exact .inl (groups' ▸ one)
  · exact .inl (groups' ▸ one)
  · exact .inl (groups ▸ two)
  · exact .inr ⟨groups.trans groups', .inl (Int.lt_trans one two)⟩
  · exact .inr ⟨groups.trans groups', .inl (numbers' ▸ one)⟩
  · exact .inl (groups ▸ two)
  · exact .inr ⟨groups.trans groups', .inl (numbers ▸ two)⟩
  · exact .inr ⟨groups.trans groups', .inr ⟨numbers.trans numbers', List.lt_trans one two⟩⟩

/-- Of two ranks that differ one comes before the other. -/
theorem before_of_not_before {first second : Rank} (notBefore : first.before second = false)
    (distinct : first ≠ second) : second.before first = true := by
  obtain ⟨group, number, codes⟩ := first
  obtain ⟨group', number', codes'⟩ := second
  rw [before_iff]
  rw [← Bool.not_eq_true, before_iff] at notBefore
  simp only [not_or, not_and] at notBefore
  obtain ⟨groups, rest⟩ := notBefore
  by_cases sameGroup : group = group'
  · subst sameGroup
    obtain ⟨numbers, texts⟩ := rest rfl
    refine .inr ⟨rfl, ?_⟩
    by_cases sameNumber : number = number'
    · subst sameNumber
      refine .inr ⟨rfl, Decidable.byContradiction fun notAfter => distinct ?_⟩
      have equal : codes = codes' :=
        List.le_antisymm (List.not_lt.1 notAfter) (List.not_lt.1 (texts rfl))
      rw [equal]
    · exact .inl (by simp only at numbers ⊢; omega)
  · exact .inl (by simp only at groups ⊢; omega)

end Rank

/-! ## Families -/

/-- Values of one family have a common order: all numbers, truth values among them, all texts, all
rows of bytes, all days, all moments without a zone, all moments with one. -/
inductive Family where
  | null
  | number
  | text
  | bytes
  | day
  | moment
  | instant
deriving DecidableEq, Repr

namespace Scalar

/-- What a floating point number denotes, in units of the smallest one. -/
def decimalRank : Binary64 → Rank
  | .infinite true => ⟨1, 0, []⟩
  | .infinite false => ⟨3, 0, []⟩
  | .notNumber => ⟨4, 0, []⟩
  | number@(.finite ..) => ⟨2, number.signedUnits, []⟩

/-- The family of a timestamp. -/
def timestampFamily (value : Timestamp) : Family :=
  match value.clock with
  | none => .day
  | some clock => if clock.zone.isNone then .moment else .instant

/-- What a timestamp denotes. -/
def timestampRank (value : Timestamp) : Rank :=
  match timestampFamily value with
  | .day => ⟨7, value.dayNumber, []⟩
  | .moment => ⟨8, value.instant, []⟩
  | _ => ⟨9, value.instant, []⟩

/-- What a value denotes. -/
def rank : Scalar → Rank
  | .null => ⟨0, 0, []⟩
  | .bool value => ⟨2, if value then Binary64.unitsInOne else 0, []⟩
  | .int value => ⟨2, value * Binary64.unitsInOne, []⟩
  | .decimal value => decimalRank value
  | .notNumber mark => ⟨4, mark + 1, []⟩
  | .text value => ⟨5, 0, Text.codes value⟩
  | .brokenText codes => ⟨5, 0, codes⟩
  | .bytes value => ⟨6, 0, value.map UInt8.toNat⟩
  | .timestamp value => timestampRank value

/-- The family of a value. -/
def family : Scalar → Family
  | .null => .null
  | .bool _ | .int _ | .decimal _ | .notNumber _ => .number
  | .text _ | .brokenText _ => .text
  | .bytes _ => .bytes
  | .timestamp value => timestampFamily value

/-- Whether a value is no number although it is of their family. -/
def isNotNumber : Scalar → Bool
  | .decimal .notNumber | .notNumber _ => true
  | _ => false

/-- Whether two values denote the same. -/
def same (first second : Scalar) : Bool :=
  decide (first.rank = second.rank)

theorem same_refl (value : Scalar) : value.same value = true := by
  simp [same]

theorem same_comm (first second : Scalar) : first.same second = second.same first := by
  simp [same, eq_comm]

theorem same_trans {first second third : Scalar} (one : first.same second = true)
    (two : second.same third = true) : first.same third = true := by
  simp only [same, decide_eq_true_eq] at *
  exact one.trans two

/-- A text denotes itself. -/
@[simp] theorem same_text (first second : String) :
    (Scalar.text first).same (.text second) = decide (first = second) := by
  simp [same, rank, Text.codes_inj]

/-- Whether a value counts as true: nulls, false, zeros and the empty text do not. -/
def truthy : Scalar → Bool
  | .null => false
  | .bool value => value
  | .int value => value != 0
  | .decimal value => !value.isZero
  | .text value => !value.isEmpty
  | .brokenText codes => !codes.isEmpty
  | .bytes value => !value.isEmpty
  | .notNumber _ | .timestamp _ => true

/-! ## Text -/

/-- A value written out, a text in quotes. -/
def written : Scalar → String
  | .null => "None"
  | .bool true => "True"
  | .bool false => "False"
  | .int value => toString value
  | .decimal value => value.text
  | .notNumber _ => Binary64.notNumber.text
  | .text value => Text.quote value
  | .brokenText codes => Text.quoteCodes codes
  | .bytes value => Text.quoteBytes value
  | .timestamp value => value.written

/-- Whether a value can be written out: a whole number must not be too long for that. -/
def isWritable : Scalar → Bool
  | .int value => value.natAbs < Nat.pow 10 Text.digitLimit
  | _ => true

/-- The value of a row of code points: a text, unless halves of characters are among them. -/
def ofCodes (codes : List Nat) : Scalar :=
  if codes.any Text.isHalf then .brokenText codes else .text (Text.ofCodes codes)

/-- A value as a text, the halves of characters in a broken one replaced. -/
def asText? : Scalar → Option String
  | .text value => some value
  | .brokenText codes => some (Text.ofCodes codes)
  | _ => none

/-- The text of a value inside a sentence: texts and timestamps stand for themselves. -/
def shown : Scalar → String
  | .text value => value
  | .brokenText codes => Text.ofCodes codes
  | .timestamp value => value.text
  | other => other.written

/-- The name under which a value stands as a key where all keys are texts. -/
def keyText : Scalar → String
  | .null => "null"
  | .bool value => toString value
  | other => other.shown

end Scalar

end FeatureResolution
