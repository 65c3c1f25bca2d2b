import FeatureResolution.Proofs.Checks

/-!
# Which errors a computation may end in

`Safe fails holds` says of a computation that it ends in a value for which `holds` or in an error
for which `fails`. A computation made of steps is safe when each step is, given what holds of the
values before it, so one lemma about each function carries a bound on the errors through everything
that calls it.
-/

namespace FeatureResolution

variable {ε α β : Type} {fails others : ε → Prop} {holds : α → Prop} {after : β → Prop}

/-- A computation ends in a value with a property or in an error of a kind. -/
def Safe (fails : ε → Prop) (holds : α → Prop) : Except ε α → Prop
  | .ok value => holds value
  | .error error => fails error

theorem safe_iff {result : Except ε α} :
    Safe fails holds result ↔
      (∃ value, result = .ok value ∧ holds value) ∨
        ∃ error, result = .error error ∧ fails error := by
  cases result <;> simp [Safe]

theorem Safe.of_ok {result : Except ε α} (safe : Safe fails holds result) {value : α}
    (ended : result = .ok value) : holds value := by
  subst ended
  exact safe

theorem Safe.of_error {result : Except ε α} (safe : Safe fails holds result) {error : ε}
    (ended : result = .error error) : fails error := by
  subst ended
  exact safe

theorem Safe.mono {more : α → Prop} {result : Except ε α} (safe : Safe fails holds result)
    (errors : ∀ error, fails error → others error) (values : ∀ value, holds value → more value) :
    Safe others more result := by
  cases result with
  | ok value => exact values value safe
  | error error => exact errors error safe

/-- What a computation ends in is its result. -/
theorem Safe.and_eq {result : Except ε α} (safe : Safe fails holds result) :
    Safe fails (fun value => result = .ok value ∧ holds value) result := by
  cases result with
  | ok value => exact ⟨rfl, safe⟩
  | error error => exact safe

theorem Safe.map {result : Except ε α} (safe : Safe fails holds result) {change : α → β}
    (changed : ∀ value, holds value → after (change value)) :
    Safe fails after (result.map change) := by
  cases result with
  | ok value => exact changed value safe
  | error error => exact safe

theorem Safe.bind {first : Except ε α} {next : α → Except ε β}
    (firstSafe : Safe fails holds first)
    (nextSafe : ∀ value, holds value → Safe fails after (next value)) :
    Safe fails after (first >>= next) := by
  cases first with
  | ok value => exact nextSafe value firstSafe
  | error error => exact firstSafe

theorem safe_forM {check : α → Except ε Unit} {items : List α}
    (each : ∀ item ∈ items, Safe fails (fun _ => True) (check item)) :
    Safe fails (fun _ => True) (items.forM check) := by
  induction items with
  | nil => trivial
  | cons head rest ih =>
    obtain ⟨headSafe, restSafe⟩ := List.forall_mem_cons.1 each
    exact headSafe.bind fun _ _ => ih restSafe

theorem safe_mapM {read : α → Except ε β} {items : List α}
    (each : ∀ item ∈ items, Safe fails after (read item)) :
    Safe fails (fun results => ∀ result ∈ results, after result) (items.mapM read) := by
  induction items with
  | nil => exact fun result absent => absurd absent List.not_mem_nil
  | cons head rest ih =>
    obtain ⟨headSafe, restSafe⟩ := List.forall_mem_cons.1 each
    rw [List.mapM_cons]
    refine headSafe.bind fun result good => (ih restSafe).bind fun results allGood => ?_
    exact List.forall_mem_cons.2 ⟨good, allGood⟩

theorem safe_foldlM {add : β → α → Except ε β} {items : List α} {start : β}
    (begins : after start)
    (each : ∀ whole, after whole → ∀ item ∈ items, Safe fails after (add whole item)) :
    Safe fails after (items.foldlM add start) := by
  induction items generalizing start with
  | nil => exact begins
  | cons head rest ih =>
    rw [List.foldlM_cons]
    refine (each start begins head List.mem_cons_self).bind fun whole good => ?_
    exact ih good fun whole good item present =>
      each whole good item (List.mem_cons_of_mem head present)

end FeatureResolution
