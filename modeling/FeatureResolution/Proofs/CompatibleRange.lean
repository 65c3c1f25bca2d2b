import FeatureResolution.Proofs.Pins
import FeatureResolution.Proofs.VersionGrammar

/-!
# Compatible ranges

A declared version keeps the range above another version when it may stand in for it
(`Contract.range_admits_iff`). That is a matter of two numbers of each text, so on the texts that
are versions it is a preorder: each stands in for itself (`Version.Readable.compatible_self`), and
what stands in for a version stands in for all that this one does (`Version.Compatible.trans`). Two
texts stand in for each other when they agree in both numbers (`Version.sameRange_iff`), and it does
not matter how the numbers are written (`Version.WrittenAlike.sameRange`).

An exact pin is kept by its own text alone (`Contract.pin_admits_iff`), which keeps the range above
it too.
-/

namespace FeatureResolution

open Label

/-! ## Versions that stand in for each other -/

namespace Version

/-- A text is a version. -/
def Readable (text : String) : Prop :=
  ∃ version, parse text = .ok version

/-- Two texts are versions of one major and one minor number. -/
def SameRange (first second : String) : Prop :=
  ∃ one other, parse first = .ok one ∧ parse second = .ok other ∧
    one.major = other.major ∧ one.minor = other.minor

/-- Two texts are versions that are written alike up to the minor number: they may differ in the
patch number, in the suffix and in blanks around the version, and the numbers in zeros in front and
in the scripts of their digits. A missing minor number is written like a zero. -/
def WrittenAlike (first second : String) : Prop :=
  ∃ runs others suffix ending, Spelled (Text.trimChars first.toList) runs suffix ∧
    Spelled (Text.trimChars second.toList) others ending ∧
      (∀ run ∈ runs, run.length ≤ Text.digitLimit) ∧
      (∀ run ∈ others, run.length ≤ Text.digitLimit) ∧
        Text.WriteAlike (runs.getD 0 []) (others.getD 0 []) ∧
          Text.WriteAlike (runs.getD 1 []) (others.getD 1 [])

theorem Satisfies.trans {first second third : Version} (one : first.Satisfies second)
    (two : second.Satisfies third) : first.Satisfies third :=
  ⟨one.1.trans two.1, two.2.trans one.2⟩

theorem Readable.compatible_self {text : String} (readable : Readable text) :
    Compatible text text := by
  obtain ⟨version, read⟩ := readable
  exact (compatible_iff read read).2 ⟨rfl, le_rfl⟩

theorem Compatible.trans {first second third : String} (one : Compatible first second)
    (two : Compatible second third) : Compatible first third := by
  obtain ⟨declared, between, firstRead, secondRead, satisfies⟩ := one
  obtain ⟨_, needed, secondAgain, thirdRead, later⟩ := two
  cases secondRead.symm.trans secondAgain
  exact ⟨declared, needed, firstRead, thirdRead, satisfies.trans later⟩

/-- Versions stand in for each other when they differ neither in major nor in minor number. -/
theorem sameRange_iff {first second : String} :
    SameRange first second ↔ Compatible first second ∧ Compatible second first := by
  constructor
  · rintro ⟨one, other, firstRead, secondRead, majors, minors⟩
    exact ⟨(compatible_iff firstRead secondRead).2 ⟨majors, minors.ge⟩,
      (compatible_iff secondRead firstRead).2 ⟨majors.symm, minors.le⟩⟩
  · rintro ⟨⟨one, other, firstRead, secondRead, forth⟩, back⟩
    have back := (compatible_iff secondRead firstRead).1 back
    exact ⟨one, other, firstRead, secondRead, forth.1, back.2.antisymm forth.2⟩

/-- Which version stands in for which depends on no more than their major and minor numbers. -/
theorem SameRange.compatible_iff {found other required needed : String}
    (sameFound : SameRange found other) (sameRequired : SameRange required needed) :
    Compatible found required ↔ Compatible other needed := by
  obtain ⟨foundForth, foundBack⟩ := sameRange_iff.1 sameFound
  obtain ⟨requiredForth, requiredBack⟩ := sameRange_iff.1 sameRequired
  exact ⟨fun compatible => (foundBack.trans compatible).trans requiredForth,
    fun compatible => (foundForth.trans compatible).trans requiredBack⟩

theorem getD_map_decimalValue (runs : List (List Char)) (index : Nat) :
    (runs.map Text.decimalValue).getD index 0 = Text.decimalValue (runs.getD index []) := by
  rw [List.getD_eq_getElem?_getD, List.getD_eq_getElem?_getD, List.getElem?_map]
  cases runs[index]? <;> rfl

theorem WrittenAlike.sameRange {first second : String} (alike : WrittenAlike first second) :
    SameRange first second := by
  obtain ⟨runs, others, suffix, ending, spelled, otherSpelled, short, otherShort, majors,
    minors⟩ := alike
  refine ⟨_, _, spelled.parse_eq_ok_iff.2 ⟨short, rfl⟩,
    otherSpelled.parse_eq_ok_iff.2 ⟨otherShort, rfl⟩, ?_, ?_⟩
  · simp only [ofNumbers, getD_map_decimalValue]
    exact majors.decimalValue_eq
  · simp only [ofNumbers, getD_map_decimalValue]
    exact minors.decimalValue_eq

end Version

/-! ## Contracts on a version text -/

namespace Contract

variable {ν : Type} [Label ν] {artifact : ν} {found required : String}

/-- The contract on an artifact that is kept by the versions compatible with a version text. -/
def range (artifact : ν) (version : String) : Contract ν :=
  ⟨artifact, ofText version, .compatible⟩

/-- The contract on an artifact that is kept by a version text alone. -/
def pin (artifact : ν) (version : String) : Contract ν :=
  ⟨artifact, ofText version, .exact⟩

/-- A declared version passes the check of a contract. -/
def Admits (contract : Contract ν) (found : String) : Prop :=
  contract.check (ofText found) = .ok ()

theorem range_admits_iff :
    (range artifact required).Admits found ↔ Version.Compatible found required := by
  simp only [Admits, check, range, shown_ofText]
  cases requiredRead : Version.parse required with
  | error cause => simp [Version.Compatible, requiredRead]
  | ok needed =>
    rw [ok_bind]
    cases foundRead : Version.parse found with
    | error cause => simp [Version.Compatible, foundRead]
    | ok declared =>
      rw [Version.compatible_iff foundRead requiredRead]
      by_cases satisfies : declared.Satisfies needed
      · simp [satisfies]
      · simp [satisfies]

theorem pin_admits_iff : (pin artifact required).Admits found ↔ found = required := by
  have alike : Label.agrees (ofText found : ν) (ofText required) = decide (found = required) := by
    rw [Label.agrees, document_ofText, document_ofText]
    exact agrees_text found required
  simp only [Admits, check, pin, alike]
  by_cases same : found = required
  · simp [same]
  · simp [same]

/-- Which declared versions keep the range above a version. On the texts that are versions this is a
preorder: it compares their major and minor numbers, however these are written and whatever follows
them, and two versions keep the ranges above each other when they agree in both numbers. What keeps
an exact pin on a version keeps the range above it, and what is no version keeps no range. -/
theorem range_preorder (artifact : ν) :
    (∀ version, Version.Readable version → (range artifact version).Admits version) ∧
    (∀ first second third, (range artifact second).Admits first →
      (range artifact third).Admits second → (range artifact third).Admits first) ∧
    (∀ found required declared needed, Version.parse found = .ok declared →
      Version.parse required = .ok needed →
        ((range artifact required).Admits found ↔
          declared.major = needed.major ∧ needed.minor ≤ declared.minor)) ∧
    (∀ found other required needed, Version.WrittenAlike found other →
      Version.WrittenAlike required needed →
        ((range artifact required).Admits found ↔ (range artifact needed).Admits other)) ∧
    (∀ first second one other, Version.parse first = .ok one → Version.parse second = .ok other →
      ((range artifact second).Admits first ∧ (range artifact first).Admits second ↔
        one.major = other.major ∧ one.minor = other.minor)) ∧
    (∀ found required, Version.Readable required → (pin artifact required).Admits found →
      (range artifact required).Admits found) ∧
    ∀ found required, ¬ Version.Readable found → ¬ (range artifact required).Admits found := by
  simp only [range_admits_iff, pin_admits_iff]
  refine ⟨fun version => Version.Readable.compatible_self, fun first second third =>
    Version.Compatible.trans, ?_, ?_, ?_, ?_, ?_⟩
  · intro found required declared needed foundRead requiredRead
    exact Version.compatible_iff foundRead requiredRead
  · intro found other required needed foundAlike requiredAlike
    exact foundAlike.sameRange.compatible_iff requiredAlike.sameRange
  · intro first second one other firstRead secondRead
    rw [← Version.sameRange_iff]
    simp [Version.SameRange, firstRead, secondRead]
  · rintro found required readable rfl
    exact readable.compatible_self
  · rintro found required unreadable ⟨declared, _, foundRead, _⟩
    exact unreadable ⟨declared, foundRead⟩

/-- Version 1.10 keeps the range above 1.9, also where both are written in other ways; a text that
begins with a letter keeps no range. -/
theorem range_preorder_ten :
    (range "derive" "1.9").Admits "1.9" ∧ (range "derive" "1.9").Admits "1.10" ∧
      (range "derive" "1.2").Admits "1.10" ∧ (range "derive" "01.9").Admits "\t1.010.7-rc\n" ∧
      ((range "derive" "1.9.1").Admits "1.9.2" ∧ (range "derive" "1.9.2").Admits "1.9.1") ∧
        ¬ (range "derive" "1.9").Admits "v1.9" := by
  obtain ⟨self, transitive, numbers, alike, equal, pinned, unreadable⟩ := range_preorder "derive"
  have nine : Version.parse "1.9" = .ok ⟨1, 9, 0⟩ := rfl
  have ten : Version.parse "1.10" = .ok ⟨1, 10, 0⟩ := rfl
  have two : Version.parse "1.2" = .ok ⟨1, 2, 0⟩ := rfl
  have older : Version.parse "1.9.1" = .ok ⟨1, 9, 1⟩ := rfl
  have newer : Version.parse "1.9.2" = .ok ⟨1, 9, 2⟩ := rfl
  have tenKeeps : (range "derive" "1.9").Admits "1.10" :=
    (numbers _ _ _ _ ten nine).2 ⟨rfl, by decide⟩
  have nineKeeps : (range "derive" "1.2").Admits "1.9" :=
    (numbers _ _ _ _ nine two).2 ⟨rfl, by decide⟩
  have tenAlike : Version.WrittenAlike "1.10" "\t1.010.7-rc\n" :=
    ⟨[['1'], ['1', '0']], [['1'], ['0', '1', '0'], ['7']], [], ['-', 'r', 'c'], by decide,
      by decide, by decide, by decide, rfl, rfl⟩
  have nineAlike : Version.WrittenAlike "1.9" "01.9" :=
    ⟨[['1'], ['9']], [['0', '1'], ['9']], [], [], by decide, by decide, by decide, by decide,
      rfl, rfl⟩
  refine ⟨pinned _ _ ⟨_, nine⟩ (pin_admits_iff.2 rfl), tenKeeps,
    transitive _ _ _ tenKeeps nineKeeps, (alike _ _ _ _ tenAlike nineAlike).1 tenKeeps,
    (equal _ _ _ _ newer older).2 ⟨rfl, rfl⟩, ?_⟩
  refine unreadable _ _ ?_
  rintro ⟨version, read⟩
  cases read

end Contract

end FeatureResolution
