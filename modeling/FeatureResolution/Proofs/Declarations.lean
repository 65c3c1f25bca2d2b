import FeatureResolution.Artifacts
import FeatureResolution.Proofs.Checks
import FeatureResolution.Proofs.TrimmedText
import Mathlib.Data.List.Induction

/-!
# Declared versions as texts

A version is declared as `NAME=VERSION`. A name without the sign `=` and a version, both of them
trimmed and not empty, are what such a declaration is cut into (`splitDeclaration_written`). Reading
declarations of different names gives all of them back in their order (`parse_written`).

Any text declares something when there is more than blanks before its first sign and behind it
(`Declares`), and otherwise it is malformed (`Malformed`); cutting tells the two apart
(`splitDeclaration_eq_ok_iff`, `splitDeclaration_eq_error_iff`). Texts are read when none of them is
malformed, and what is read then is told by what they declare (`Reading`): each name once, with the
version that the last text for it declares. One more text keeps this up (`Reading.declare`).
-/

namespace FeatureResolution.Artifacts

variable {argument before after name version : String} {error : Error}
  {arguments : List String} {artifacts : Artifacts String}

/-- A text that is kept whole where texts are trimmed and empty ones refused. -/
def IsTrimmed (text : String) : Prop :=
  Text.trim text = text ∧ text ≠ ""

instance (text : String) : Decidable (IsTrimmed text) :=
  inferInstanceAs (Decidable (_ ∧ _))

/-- An artifact and its version that can be written as one declaration. -/
def Declarable (entry : String × String) : Prop :=
  IsTrimmed entry.1 ∧ '=' ∉ entry.1.toList ∧ IsTrimmed entry.2

instance (entry : String × String) : Decidable (Declarable entry) :=
  inferInstanceAs (Decidable (_ ∧ _))

/-- The declaration of an artifact's version. -/
def written (entry : String × String) : String :=
  entry.1 ++ "=" ++ entry.2

/-! ## One declaration -/

/-- A text declares a version of an artifact: the name is what stands before the first sign `=` and
the version is what stands behind it, both trimmed and not empty. -/
def Declares (argument name version : String) : Prop :=
  ∃ before after, argument = before ++ "=" ++ after ∧ '=' ∉ before.toList ∧
    Text.trim before = name ∧ Text.trim after = version ∧ name ≠ "" ∧ version ≠ ""

/-- A text declares nothing: it has no sign `=`, or only blanks before the first one, or only blanks
behind that. -/
inductive Malformed (argument : String) : Prop
  | unsigned : '=' ∉ argument.toList → Malformed argument
  | unnamed (before after : String) : argument = before ++ "=" ++ after → '=' ∉ before.toList →
      (∀ c ∈ before.toList, Text.isBlank c = true) → Malformed argument
  | versionless (before after : String) : argument = before ++ "=" ++ after →
      '=' ∉ before.toList → (∀ c ∈ after.toList, Text.isBlank c = true) → Malformed argument

theorem trim_eq_empty_iff {text : String} :
    Text.trim text = "" ↔ ∀ c ∈ text.toList, Text.isBlank c = true := by
  rw [← Text.trimChars_eq_nil_iff, Text.trim, String.ofList_eq_empty_iff]

/-- A text with a sign is cut at its first one. -/
theorem exists_cut (signed : '=' ∈ argument.toList) :
    ∃ before after, argument = before ++ "=" ++ after ∧ '=' ∉ before.toList := by
  obtain ⟨front, back, whole, unsigned⟩ := List.eq_append_cons_of_mem signed
  refine ⟨String.ofList front, String.ofList back, ?_, by simpa using unsigned⟩
  rw [← String.toList_inj, whole]
  simp

theorem splitDeclaration_of_unsigned (unsigned : '=' ∉ argument.toList) :
    splitDeclaration argument = .error (.fault (.malformedArtifact argument)) := by
  simp [splitDeclaration, unsigned]

theorem splitDeclaration_cut (unsigned : '=' ∉ before.toList) :
    splitDeclaration (before ++ "=" ++ after) =
      if Text.trim before = "" ∨ Text.trim after = "" then
        .error (.fault (.malformedArtifact (before ++ "=" ++ after)))
      else .ok (Text.trim before, Text.trim after) := by
  have chars : (before ++ "=" ++ after).toList = before.toList ++ '=' :: after.toList := by simp
  have passes : ∀ c ∈ before.toList, (c != '=') = true := fun c present => by
    simpa using fun sign : c = '=' => unsigned (sign ▸ present)
  simp [splitDeclaration, chars, List.takeWhile_append_of_pos passes,
    List.dropWhile_append_of_pos passes, Text.trim, String.ofList_eq_empty_iff]

theorem splitDeclaration_eq_ok_iff :
    splitDeclaration argument = .ok (name, version) ↔ Declares argument name version := by
  constructor
  · intro cut
    by_cases signed : '=' ∈ argument.toList
    · obtain ⟨before, after, rfl, unsigned⟩ := exists_cut signed
      rw [splitDeclaration_cut unsigned] at cut
      split at cut
      · cases cut
      · next some =>
        cases cut
        exact ⟨before, after, rfl, unsigned, rfl, rfl, not_or.1 some⟩
    · rw [splitDeclaration_of_unsigned signed] at cut
      cases cut
  · rintro ⟨before, after, rfl, unsigned, rfl, rfl, named, versioned⟩
    rw [splitDeclaration_cut unsigned, if_neg (not_or.2 ⟨named, versioned⟩)]

theorem splitDeclaration_eq_error_iff : splitDeclaration argument = .error error ↔
    Malformed argument ∧ error = .fault (.malformedArtifact argument) := by
  constructor
  · intro cut
    by_cases signed : '=' ∈ argument.toList
    · obtain ⟨before, after, rfl, unsigned⟩ := exists_cut signed
      rw [splitDeclaration_cut unsigned] at cut
      split at cut
      · next none =>
        cases cut
        refine ⟨?_, rfl⟩
        rcases none with noName | noVersion
        · exact .unnamed before after rfl unsigned (trim_eq_empty_iff.1 noName)
        · exact .versionless before after rfl unsigned (trim_eq_empty_iff.1 noVersion)
      · cases cut
    · rw [splitDeclaration_of_unsigned signed] at cut
      cases cut
      exact ⟨.unsigned signed, rfl⟩
  · rintro ⟨malformed, rfl⟩
    cases malformed with
    | unsigned unsigned => exact splitDeclaration_of_unsigned unsigned
    | unnamed before after whole unsigned blank =>
      rw [whole, splitDeclaration_cut unsigned, if_pos (.inl (trim_eq_empty_iff.2 blank))]
    | versionless before after whole unsigned blank =>
      rw [whole, splitDeclaration_cut unsigned, if_pos (.inr (trim_eq_empty_iff.2 blank))]

/-- Every text that is not malformed declares something. -/
theorem not_malformed_iff :
    ¬ Malformed argument ↔ ∃ name version, Declares argument name version := by
  cases cut : splitDeclaration argument with
  | error error =>
    refine iff_of_false (not_not.2 (splitDeclaration_eq_error_iff.1 cut).1) ?_
    rintro ⟨name, version, declares⟩
    cases cut.symm.trans (splitDeclaration_eq_ok_iff.2 declares)
  | ok entry =>
    refine iff_of_true (fun malformed => ?_) ⟨_, _, splitDeclaration_eq_ok_iff.1 cut⟩
    cases cut.symm.trans (splitDeclaration_eq_error_iff.2 ⟨malformed, rfl⟩)

theorem declares_written {entry : String × String} (declarable : Declarable entry) :
    Declares (written entry) entry.1 entry.2 := by
  obtain ⟨⟨nameTrimmed, named⟩, unsigned, versionTrimmed, versioned⟩ := declarable
  exact ⟨entry.1, entry.2, rfl, unsigned, nameTrimmed, versionTrimmed, named, versioned⟩

theorem splitDeclaration_written {entry : String × String} (declarable : Declarable entry) :
    splitDeclaration (written entry) = .ok entry :=
  splitDeclaration_eq_ok_iff.2 (declares_written declarable)

/-- What a text declares can be written as a declaration. -/
theorem Declares.declarable (declares : Declares argument name version) :
    Declarable (name, version) := by
  obtain ⟨before, after, rfl, unsigned, rfl, rfl, named, versioned⟩ := declares
  refine ⟨⟨Text.trim_trim before, named⟩, fun sign => unsigned ?_, Text.trim_trim after, versioned⟩
  obtain ⟨front, back, _, _, whole⟩ := Text.exists_blanks before.toList
  rw [Text.trim, String.toList_ofList] at sign
  rw [whole]
  exact List.mem_append_right _ (List.mem_append_left _ sign)

/-- A text declares one version of one artifact. -/
theorem Declares.unique {other otherVersion : String} (declares : Declares argument name version)
    (declaresToo : Declares argument other otherVersion) :
    name = other ∧ version = otherVersion := by
  have same := (splitDeclaration_eq_ok_iff.2 declares).symm.trans
    (splitDeclaration_eq_ok_iff.2 declaresToo)
  exact Prod.mk.inj (Except.ok.inj same)

/-! ## All declarations -/

/-- A new name is declared at the end. -/
theorem declare_of_new {name : String} (version : String) {artifacts : Artifacts String}
    (new : name ∉ artifacts.map (·.1)) :
    declare name version artifacts = artifacts ++ [(name, version)] := by
  induction artifacts with
  | nil => rfl
  | cons entry rest ih =>
    obtain ⟨known, old⟩ := entry
    rw [List.map_cons, List.mem_cons, not_or] at new
    simp [declare, Ne.symm new.1, ih new.2]

/-- Reads one declaration after others. -/
def readNext (artifacts : Artifacts String) (argument : String) :
    Except Error (Artifacts String) := do
  let (name, version) ← splitDeclaration argument
  return declare name version artifacts

theorem parse_eq_foldlM (arguments : List String) :
    parse arguments = arguments.foldlM readNext [] :=
  rfl

theorem readNext_written {artifacts : Artifacts String} {entry : String × String}
    (declarable : Declarable entry) (new : entry.1 ∉ artifacts.map (·.1)) :
    readNext artifacts (written entry) = .ok (artifacts ++ [entry]) := by
  rw [readNext, splitDeclaration_written declarable, ok_bind]
  exact congrArg Except.ok (declare_of_new entry.2 new)

/-- Declarations of new names are read after those that were read before. -/
theorem foldlM_readNext_written {earlier later : Artifacts String}
    (distinct : ((earlier ++ later).map (·.1)).Nodup)
    (declarable : ∀ entry ∈ later, Declarable entry) :
    (later.map written).foldlM readNext earlier = .ok (earlier ++ later) := by
  induction later generalizing earlier with
  | nil => simp
  | cons entry rest ih =>
    obtain ⟨headDeclarable, restDeclarable⟩ := List.forall_mem_cons.1 declarable
    have regrouped : earlier ++ entry :: rest = earlier ++ [entry] ++ rest := by simp
    have new : entry.1 ∉ earlier.map (·.1) := by
      intro known
      rw [List.map_append, List.nodup_append] at distinct
      exact distinct.2.2 entry.1 known entry.1 (by simp) rfl
    rw [regrouped] at distinct ⊢
    rw [List.map_cons, List.foldlM_cons, readNext_written headDeclarable new, ok_bind,
      ih distinct restDeclarable]

theorem parse_written {artifacts : Artifacts String} (distinct : (artifacts.map (·.1)).Nodup)
    (declarable : ∀ entry ∈ artifacts, Declarable entry) :
    parse (artifacts.map written) = .ok artifacts := by
  have whole : (([] : Artifacts String) ++ artifacts).map (·.1) = artifacts.map (·.1) := rfl
  rw [parse_eq_foldlM, foldlM_readNext_written (whole ▸ distinct) declarable]
  rfl

/-! ## What is read -/

theorem names_declare : (declare name version artifacts).map (·.1) =
    if name ∈ artifacts.map (·.1) then artifacts.map (·.1) else artifacts.map (·.1) ++ [name] := by
  induction artifacts with
  | nil => rfl
  | cons entry rest ih =>
    obtain ⟨known, old⟩ := entry
    by_cases here : known = name
    · simp [declare, here]
    · simp only [declare, Label.same_text, here, decide_false, Bool.false_eq_true, if_false,
        List.map_cons, ih, List.mem_cons, Ne.symm here, false_or]
      split <;> rfl

theorem eq_or_mem_of_mem_declare {entry : String × String}
    (present : entry ∈ declare name version artifacts) :
    entry = (name, version) ∨ entry ∈ artifacts := by
  induction artifacts with
  | nil => exact .inl (List.mem_singleton.1 present)
  | cons head rest ih =>
    obtain ⟨known, old⟩ := head
    by_cases here : known = name
    · simp only [declare, Label.same_text, here, decide_true, if_true, List.mem_cons] at present ⊢
      exact present.imp_right .inr
    · simp only [declare, Label.same_text, here, decide_false, Bool.false_eq_true, if_false,
        List.mem_cons] at present ⊢
      rcases present with rfl | later
      · exact .inr (.inl rfl)
      · exact (ih later).imp_right .inr

/-- Where each name stands once, a version is found under a name when the two stand together. -/
theorem version?_eq_some_iff (distinct : (artifacts.map (·.1)).Nodup) :
    version? name artifacts = some version ↔ (name, version) ∈ artifacts := by
  induction artifacts with
  | nil => simp [version?]
  | cons entry rest ih =>
    obtain ⟨known, old⟩ := entry
    obtain ⟨new, restDistinct⟩ := List.nodup_cons.1 distinct
    by_cases here : known = name
    · subst here
      have apart : (known, version) ∉ rest := fun present =>
        new (List.mem_map.2 ⟨(known, version), present, rfl⟩)
      simp [version?, apart, eq_comm]
    · simp [version?, here, Ne.symm here, ih restDistinct]

/-- Of all texts the last one that declares a version for a name declares the given one. -/
def LastDeclares (arguments : List String) (name version : String) : Prop :=
  ∃ earlier argument later, arguments = earlier ++ argument :: later ∧
    Declares argument name version ∧ ∀ other ∈ later, ∀ others, ¬ Declares other name others

/-- What is read of some texts: each name that one of them declares, once, with the version that the
last of them declares for it. -/
structure Reading (arguments : List String) (artifacts : Artifacts String) : Prop where
  distinct : (artifacts.map (·.1)).Nodup
  declarable : ∀ entry ∈ artifacts, Declarable entry
  names : ∀ name, name ∈ artifacts.map (·.1) ↔
    ∃ argument ∈ arguments, ∃ version, Declares argument name version
  last : ∀ name version, artifacts.version? name = some version ↔
    LastDeclares arguments name version

theorem lastDeclares_append_singleton {other otherVersion : String}
    (declares : Declares argument name version) :
    LastDeclares (arguments ++ [argument]) other otherVersion ↔
      if other = name then version = otherVersion
      else LastDeclares arguments other otherVersion := by
  constructor
  · rintro ⟨earlier, item, later, whole, itemDeclares, last⟩
    rcases List.eq_nil_or_concat later with rfl | ⟨more, final, rfl⟩
    · obtain ⟨_, ⟨⟩⟩ := List.append_inj' whole rfl
      obtain ⟨rfl, rfl⟩ := declares.unique itemDeclares
      rw [if_pos rfl]
    · have regrouped : arguments ++ [argument] = (earlier ++ item :: more) ++ [final] := by
        simpa using whole
      obtain ⟨rfl, ⟨⟩⟩ := List.append_inj' regrouped rfl
      have differ : other ≠ name := by
        rintro rfl
        exact last argument (by simp) version declares
      rw [if_neg differ]
      have lastOfMore : ∀ next ∈ more, ∀ others, ¬ Declares next other others :=
        fun next present => last next (by simp [present])
      exact ⟨earlier, item, more, rfl, itemDeclares, lastOfMore⟩
  · split
    · next same =>
      rintro rfl
      rw [same]
      exact ⟨arguments, argument, [], rfl, declares, List.forall_mem_nil _⟩
    · next differ =>
      rintro ⟨earlier, item, later, rfl, itemDeclares, last⟩
      refine ⟨earlier, item, later ++ [argument], by simp, itemDeclares, ?_⟩
      rw [List.forall_mem_append, List.forall_mem_singleton]
      exact ⟨last, fun others declaresToo => differ (declares.unique declaresToo).1.symm⟩

theorem Reading.nil : Reading [] [] where
  distinct := .nil
  declarable := List.forall_mem_nil _
  names := by simp
  last := by simp [version?, LastDeclares]

/-- One more text puts what it declares into what was read. -/
theorem Reading.declare (reading : Reading arguments artifacts)
    (declares : Declares argument name version) :
    Reading (arguments ++ [argument]) (declare name version artifacts) where
  distinct := by
    rw [names_declare]
    split
    · exact reading.distinct
    · next new =>
      refine List.nodup_append.2 ⟨reading.distinct, List.pairwise_singleton _ name, ?_⟩
      rintro known present _ isNew rfl
      exact new (List.mem_singleton.1 isNew ▸ present)
  declarable entry present := by
    rcases eq_or_mem_of_mem_declare present with rfl | before
    · exact declares.declarable
    · exact reading.declarable entry before
  names other := by
    have declared : (∃ otherVersion, Declares argument other otherVersion) ↔ other = name :=
      ⟨fun ⟨_, declaresToo⟩ => (declaresToo.unique declares).1,
        fun same => ⟨version, same ▸ declares⟩⟩
    simp only [List.mem_append, List.mem_singleton, or_and_right, exists_or, exists_eq_left,
      declared, ← reading.names, names_declare]
    split
    · next known => exact ⟨.inl, fun either => either.elim id fun same => same ▸ known⟩
    · rw [List.mem_append, List.mem_singleton]
  last other otherVersion := by
    rw [version?_declare, lastDeclares_append_singleton declares, ← reading.last]
    split
    · exact Option.some_inj
    · rfl

theorem parse_append (arguments more : List String) :
    parse (arguments ++ more) = parse arguments >>= more.foldlM readNext := by
  rw [parse_eq_foldlM, parse_eq_foldlM, List.foldlM_append]

/-- Texts that are all sound are read. -/
theorem exists_reading (sound : ∀ argument ∈ arguments, ¬ Malformed argument) :
    ∃ artifacts, parse arguments = .ok artifacts ∧ Reading arguments artifacts := by
  induction arguments using List.reverseRecOn with
  | nil => exact ⟨[], rfl, .nil⟩
  | append_singleton earlier argument ih =>
    rw [List.forall_mem_append, List.forall_mem_singleton] at sound
    obtain ⟨artifacts, isRead, reading⟩ := ih sound.1
    obtain ⟨name, version, declares⟩ := not_malformed_iff.1 sound.2
    refine ⟨_, ?_, reading.declare declares⟩
    rw [parse_append, isRead, ok_bind, List.foldlM_cons, readNext,
      splitDeclaration_eq_ok_iff.2 declares]
    rfl

theorem parse_of_malformed {earlier later : List String} {bad : String}
    (sound : ∀ argument ∈ earlier, ¬ Malformed argument) (malformed : Malformed bad) :
    parse (earlier ++ bad :: later) = .error (.fault (.malformedArtifact bad)) := by
  obtain ⟨artifacts, isRead, _⟩ := exists_reading sound
  rw [parse_append, isRead, ok_bind, List.foldlM_cons, readNext,
    splitDeclaration_eq_error_iff.2 ⟨malformed, rfl⟩]
  rfl

theorem exists_first_malformed (some : ∃ bad ∈ arguments, Malformed bad) :
    ∃ earlier bad later, arguments = earlier ++ bad :: later ∧
      (∀ argument ∈ earlier, ¬ Malformed argument) ∧ Malformed bad := by
  classical
  obtain ⟨bad, present, malformed⟩ := some
  have found : (arguments.find? fun argument => decide (Malformed argument)).isSome = true :=
    List.find?_isSome.2 ⟨bad, present, decide_eq_true malformed⟩
  obtain ⟨first, isFirst⟩ := Option.isSome_iff_exists.1 found
  obtain ⟨firstMalformed, earlier, later, whole, sound⟩ := List.find?_eq_some_iff_append.1 isFirst
  exact ⟨earlier, first, later, whole, by simpa using sound, of_decide_eq_true firstMalformed⟩

/-- Texts are refused as the first malformed one of them. -/
theorem parse_eq_error_iff : parse arguments = .error error ↔
    ∃ earlier bad later, arguments = earlier ++ bad :: later ∧
      (∀ argument ∈ earlier, ¬ Malformed argument) ∧ Malformed bad ∧
        error = .fault (.malformedArtifact bad) := by
  constructor
  · intro refused
    by_cases some : ∃ bad ∈ arguments, Malformed bad
    · obtain ⟨earlier, bad, later, rfl, sound, malformed⟩ := exists_first_malformed some
      rw [parse_of_malformed sound malformed] at refused
      exact ⟨earlier, bad, later, rfl, sound, malformed, (Except.error.inj refused).symm⟩
    · have sound : ∀ argument ∈ arguments, ¬ Malformed argument := by simpa using some
      obtain ⟨artifacts, isRead, _⟩ := exists_reading sound
      cases isRead.symm.trans refused
  · rintro ⟨earlier, bad, later, rfl, sound, malformed, rfl⟩
    exact parse_of_malformed sound malformed

/-! ## Result -/

/-- Texts are refused exactly when one of them is malformed, and then for the first such one, which
the error names. Otherwise they are read to the names that they declare, each once and with the
version that the last text for it declares. What is read can be written as declarations, and these
are read back in any order. -/
theorem parse_arguments (arguments : List String) :
    ((∃ error, parse arguments = .error error) ↔ ∃ argument ∈ arguments, Malformed argument) ∧
      (∀ error, parse arguments = .error error →
        ∃ earlier bad later, arguments = earlier ++ bad :: later ∧
          (∀ argument ∈ earlier, ¬ Malformed argument) ∧ Malformed bad ∧
            error = .fault (.malformedArtifact bad) ∧
            error.message = "Artifact reference must look like NAME=VERSION, got '" ++ bad ++ "'") ∧
      ((∀ argument ∈ arguments, ¬ Malformed argument) →
        ∃ artifacts, parse arguments = .ok artifacts ∧ Reading arguments artifacts ∧
          ∀ order : Artifacts String, order.Perm artifacts →
            ∃ again, parse (order.map written) = .ok again ∧
              ∀ name, version? name again = version? name artifacts) := by
  refine ⟨⟨?_, ?_⟩, fun error refused => ?_, fun sound => ?_⟩
  · rintro ⟨error, refused⟩
    obtain ⟨earlier, bad, later, rfl, _, malformed, _⟩ := parse_eq_error_iff.1 refused
    exact ⟨bad, by simp, malformed⟩
  · intro some
    obtain ⟨earlier, bad, later, rfl, sound, malformed⟩ := exists_first_malformed some
    exact ⟨_, parse_of_malformed sound malformed⟩
  · obtain ⟨earlier, bad, later, whole, sound, malformed, rfl⟩ := parse_eq_error_iff.1 refused
    exact ⟨earlier, bad, later, whole, sound, malformed, rfl, rfl⟩
  · obtain ⟨artifacts, isRead, reading⟩ := exists_reading sound
    refine ⟨artifacts, isRead, reading, fun order reordered => ?_⟩
    have distinct : (order.map (·.1)).Nodup :=
      (reordered.map (·.1)).nodup_iff.2 reading.distinct
    have declarable : ∀ entry ∈ order, Declarable entry := fun entry present =>
      reading.declarable entry (reordered.mem_iff.1 present)
    refine ⟨order, parse_written distinct declarable, fun name => Option.ext fun version => ?_⟩
    rw [version?_eq_some_iff distinct, version?_eq_some_iff reading.distinct, reordered.mem_iff]

/-- The second text for a name counts, whatever blanks stand around its parts. -/
theorem parse_arguments_twice : ∃ artifacts,
    parse ["derive=1.0", " derive =\t1.1=2"] = .ok artifacts ∧
      artifacts.version? "derive" = some "1.1=2" := by
  have first : Declares "derive=1.0" "derive" "1.0" :=
    ⟨"derive", "1.0", by decide, by decide, by decide, by decide, by decide, by decide⟩
  have second : Declares " derive =\t1.1=2" "derive" "1.1=2" :=
    ⟨" derive ", "\t1.1=2", by decide, by decide, by decide, by decide, by decide, by decide⟩
  have sound : ∀ argument ∈ ["derive=1.0", " derive =\t1.1=2"], ¬ Malformed argument := by
    simp only [List.forall_mem_cons, not_malformed_iff]
    exact ⟨⟨_, _, first⟩, ⟨_, _, second⟩, List.forall_mem_nil _⟩
  obtain ⟨artifacts, isRead, reading, _⟩ := (parse_arguments _).2.2 sound
  refine ⟨artifacts, isRead, (reading.last _ _).2 ?_⟩
  exact ⟨["derive=1.0"], " derive =\t1.1=2", [], rfl, second, List.forall_mem_nil _⟩

end FeatureResolution.Artifacts
