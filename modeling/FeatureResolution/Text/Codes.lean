/-!
# Texts as code points

A text is a row of code points. The code points U+D800 to U+DFFF are no characters but halves of
one; a file can name them one by one, and then what it names is no text. `codes` reads a text as
code points and keeps its identity and its place in the order of texts (`codes_inj`, `codes_lt`).
-/

namespace FeatureResolution.Text

/-- The code points of a text. -/
def codes (text : String) : List Nat :=
  text.toList.map Char.toNat

/-- Whether a code point is half of a character. -/
def isHalf (code : Nat) : Bool :=
  0xD800 ≤ code && code ≤ 0xDFFF

/-- The character of a code point; a half is replaced. -/
def charOf (code : Nat) : Char :=
  if isHalf code then Char.ofNat 0xFFFD else Char.ofNat code

/-- The text of some code points, each half replaced. -/
def ofCodes (codes : List Nat) : String :=
  String.ofList (codes.map charOf)

/-- Two texts with the same code points are equal. -/
theorem codes_inj {first second : String} : codes first = codes second ↔ first = second := by
  refine ⟨fun same => ?_, fun same => by rw [same]⟩
  exact String.toList_inj.1 ((List.map_inj_right fun _ _ => Char.toNat_inj.1).1 same)

/-- Texts are ordered by their code points. -/
theorem codes_lt {first second : String} : codes first < codes second ↔ first < second := by
  rw [String.lt_iff]
  constructor
  · intro below
    refine Decidable.byContradiction fun notBelow => ?_
    by_cases above : second.toList < first.toList
    · have back : codes second < codes first := List.map_lt (fun _ _ less => less) above
      exact List.lt_irrefl (codes first) (List.lt_trans below back)
    · have same : first.toList = second.toList :=
        List.le_antisymm (List.not_lt.1 above) (List.not_lt.1 notBelow)
      have equal : codes first = codes second := congrArg (List.map Char.toNat) same
      exact List.lt_irrefl (codes second) (equal ▸ below)
  · exact List.map_lt fun _ _ less => less

end FeatureResolution.Text
