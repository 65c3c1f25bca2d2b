import FeatureResolution.CommandLine
import FeatureResolution.Proofs.Safety

/-!
# Values that the command line does not offer

Reading the words of a command line, one after the other, can only end in a request for help or in a
misuse (`step_safe`), and a mode or format that is not offered is a misuse wherever it stands
(`step_unoffered`). So a command line with such a value is never carried out: the run ends with
status 2 and a line of diagnostics, unless help was asked for (`run_unoffered`).
-/

namespace FeatureResolution.CommandLine

/-! ## What words can be refused for -/

/-- A word is refused as a misuse, or it asks for help. -/
inductive Refuses (word : Word) : Stop → Prop
  | help : word = .help none → Refuses word .help
  | misuse (misuse : Misuse) : Refuses word (.misuse misuse)

namespace Reading

theorem choose_safe {α : Type} (word : Word) (argument value : String) (choice : Option α)
    (choices : List String) :
    Safe (Refuses word) (fun _ => True) (choose argument value choice choices) := by
  cases choice with
  | some chosen => trivial
  | none => exact .misuse _

theorem mapM_text?_safe {α : Type} {word : Word} {choose : String → Except Stop α}
    (each : ∀ name, Safe (Refuses word) (fun _ => True) (choose name)) (value : OptionValue) :
    Safe (Refuses word) (fun _ => True) (value.text?.mapM choose) := by
  cases value with
  | text name =>
    change Safe _ _ (some <$> choose name)
    exact (each name).map fun _ _ => trivial
  | nothing => trivial

theorem assign_safe (word : Word) (reading : Reading) (value : OptionValue) (switch : Switch) :
    Safe (Refuses word) (fun _ => True) (reading.assign value switch) := by
  have mode : Safe (Refuses word) (fun _ => True) (value.text?.mapM chooseMode) :=
    mapM_text?_safe (fun _ => choose_safe ..) value
  have format : Safe (Refuses word) (fun _ => True) (value.text?.mapM chooseFormat) :=
    mapM_text?_safe (fun _ => choose_safe ..) value
  cases switch with
  | mode => exact mode.bind fun _ _ => trivial
  | format => exact format.bind fun _ _ => trivial
  | _ => trivial

/-- One word is taken, asks for help or is a misuse. -/
theorem step_safe (reading : Reading) (word : Word) :
    Safe (Refuses word) (fun _ => True) (reading.step word) := by
  unfold step
  split
  · split
    · trivial
    · exact (choose_safe _ _ _ _ _).bind fun _ _ => trivial
  · split
    · trivial
    · split <;> trivial
  · trivial
  · exact .help rfl
  · exact .misuse _
  · split
    · exact (assign_safe _ reading _ _).bind fun _ _ => trivial
    · exact .misuse _
  · split
    · exact .misuse _
    · exact (assign_safe _ reading _ _).bind fun _ _ => trivial

/-! ## Values that are not offered -/

end Reading

/-- A value of an option is none of those that it offers. -/
def Switch.Unoffered : Switch → String → Prop
  | .mode, value => value ≠ OptionValue.separator ∧ BuildMode.ofName? value = none
  | .format, value => value ≠ OptionValue.separator ∧ Format.ofName? value = none
  | _, _ => False

namespace Reading

/-- A value that is not offered is a misuse, whatever was read before. -/
theorem step_unoffered {switch : Switch} {value : String} (unoffered : switch.Unoffered value)
    (reading : Reading) :
    ∃ misuse, reading.step (.switch switch (some value)) = .error (.misuse misuse) := by
  cases switch with
  | mode =>
    obtain ⟨notSeparator, unknown⟩ := unoffered
    refine ⟨.invalidChoice Switch.mode.name value (BuildMode.all.map (·.name)), ?_⟩
    simp [step, Switch.takesValue, assign, OptionValue.ofText, notSeparator, OptionValue.text?,
      chooseMode, choose, unknown]
  | format =>
    obtain ⟨notSeparator, unknown⟩ := unoffered
    refine ⟨.invalidChoice Switch.format.name value (Format.all.map (·.name)), ?_⟩
    simp [step, Switch.takesValue, assign, OptionValue.ofText, notSeparator, OptionValue.text?,
      chooseFormat, choose, unknown]
  | _ => exact unoffered.elim

/-- A word that is refused whatever was read before ends the reading, if no word before it does. -/
theorem foldlM_step_refused {words : List Word} {word : Word} (present : word ∈ words)
    (refused : ∀ reading : Reading, ∃ misuse, reading.step word = .error (.misuse misuse))
    (start : Reading) :
    ∃ stop, words.foldlM step start = .error stop ∧ ∃ other ∈ words, Refuses other stop := by
  -- What was read before the word does not matter, so the reading is generalized.
  induction words generalizing start with
  | nil => cases present
  | cons head rest ih =>
    rw [List.foldlM_cons]
    have safe := step_safe start head
    cases taken : start.step head with
    | error stop =>
      rw [taken] at safe
      exact ⟨stop, rfl, head, List.mem_cons_self, safe⟩
    | ok next =>
      have later : word ∈ rest := by
        rcases List.mem_cons.1 present with rfl | later
        · obtain ⟨misuse, stops⟩ := refused start
          cases stops.symm.trans taken
        · exact later
      obtain ⟨stop, stops, other, listed, refuses⟩ := ih later next
      exact ⟨stop, stops, other, List.mem_cons_of_mem head listed, refuses⟩

end Reading

/-! ## Command lines -/

/-- The words of a command line have these roles, values with their options. -/
def Reads (words : List String) (roles : List Word) : Prop :=
  ∃ single, Word.classifyAll words = .ok single ∧ roles = Reading.attachValues single

/-- A command line with a value that is not offered is not carried out: it is a misuse, or it asks
for help. -/
theorem run_unoffered {words : List String} {roles : List Word} (reads : Reads words roles)
    {switch : Switch} {value : String} (given : .switch switch (some value) ∈ roles)
    (unoffered : switch.Unoffered value) (host : Host) (shared : SharedRegistry) :
    (run host shared words).1 = .ofStop .help ∧ .help none ∈ roles ∨
      ∃ misuse, (run host shared words).1 = .ofStop (.misuse misuse) := by
  obtain ⟨single, classified, rfl⟩ := reads
  obtain ⟨stop, stops, other, listed, refuses⟩ :=
    Reading.foldlM_step_refused given (Reading.step_unoffered unoffered) {}
  have parsed : Arguments.parse words = .error stop := by
    rw [Arguments.parse, classified]
    exact congrArg (· >>= Reading.finish) stops
  rw [run, parsed]
  cases refuses with
  | help isHelp => exact .inl ⟨rfl, isHelp ▸ listed⟩
  | misuse misuse => exact .inr ⟨misuse, rfl⟩

end FeatureResolution.CommandLine
