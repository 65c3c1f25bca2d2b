import FeatureResolution.Proofs.Checks
import FeatureResolution.Proofs.LayeredDocuments
import FeatureResolution.Settings

/-!
# Layered settings

Settings are the built-in defaults with up to two layers laid over them, the settings file and the
local one (`Host.Adds`). A file that is not there and an empty document add nothing; a map is laid
over what is below, and what comes of that is told path by path (`Host.Layered`).

Result: the settings in force are made layer by layer, and a built-in setting at a path is still in
force there when no layer that takes part holds anything at the path, or anything but maps on the
way to it (`Document.LeavesOpen`).
-/

namespace FeatureResolution

namespace Document

variable {document upper lower merged value : Document} {path first rest : List Scalar}

/-! ## Paths that a layer leaves open -/

/-- A layer holds nothing at a path and nothing but maps on the way to it. -/
def LeavesOpen (layer : Document) (path : List Scalar) : Prop :=
  layer.at? path = none ∧ ∀ length, 0 < length → length < path.length →
    ∀ held, layer.at? (path.take length) = some held → held.isMap = true

/-- Going down a path is going down its first part and then the rest. -/
theorem at?_append : document.at? (first ++ rest) = (document.at? first).bind (·.at? rest) := by
  induction first generalizing document with
  | nil => rfl
  | cons key first ih =>
    rw [List.cons_append, at?, at?]
    cases document.opened with
    | map fields =>
      dsimp only
      cases lookup key fields with
      | none => rfl
      | some value => exact ih
    | _ => rfl

/-- Only maps stand on the way to something. -/
theorem isMap_of_at? {length : Nat} (found : document.at? path = some value)
    (before : length < path.length) :
    ∃ held, document.at? (path.take length) = some held ∧ held.isMap = true := by
  rw [← List.take_append_drop length path, at?_append] at found
  obtain ⟨held, isHeld, found⟩ := Option.bind_eq_some_iff.1 found
  refine ⟨held, isHeld, ?_⟩
  have nonempty : path.drop length ≠ [] := List.drop_eq_nil_iff.not.2 before.not_ge
  obtain ⟨key, more, isMore⟩ := List.exists_cons_of_ne_nil nonempty
  rw [isMore, at?] at found
  split at found
  · next fields isMap => exact isMap_iff.2 ⟨fields, isMap⟩
  · cases found

/-- What a layer leaves open stays. -/
theorem LaidOver.at?_of_leavesOpen (laid : LaidOver upper lower merged)
    (leaves : upper.LeavesOpen path) (found : lower.at? path = some value) :
    merged.at? path = some value := by
  obtain ⟨nothing, onlyMaps⟩ := leaves
  refine (laid.shown path (fun length superseded => ?_) nothing).trans found
  obtain ⟨nonempty, within, ⟨held, isHeld, noMap⟩, _⟩ := superseded
  rcases Nat.lt_or_eq_of_le within with before | rfl
  · obtain ⟨old, isOld, oldMap⟩ := isMap_of_at? found before
    rcases noMap with noMap | noMap
    · rw [onlyMaps length nonempty before held isHeld] at noMap
      cases noMap
    · rw [noMap old isOld] at oldMap
      cases oldMap
  · rw [List.take_length, nothing] at isHeld
    cases isHeld

end Document

namespace Host

open Document

variable {host : Host} {path : Path} {layer : Option Document} {settings merged : Document}

/-! ## Layers -/

/-- What the file at a path adds to settings: a map, or nothing where there is no file or an empty
document. -/
inductive Adds (host : Host) (path : Path) : Option Document → Prop
  | absent : host.files.find? path = .ok none → Adds host path none
  | empty {document : Document} : host.files.find? path = .ok (some (.file (.ok document))) →
      document.truthy = false → Adds host path none
  | layer {document : Document} : host.files.find? path = .ok (some (.file (.ok document))) →
      document.truthy = true → document.isMap = true → document.Keyed →
      Adds host path (some document)

/-- What comes of settings when a layer is added. -/
inductive Layered (settings : Document) : Option Document → Document → Prop
  | unchanged : Layered settings none settings
  | laid {layer merged : Document} : settings.merge layer = .ok merged →
      LaidOver layer settings merged → Layered settings (some layer) merged

theorem addLayer_of_file {document : Document}
    (found : host.files.find? path = .ok (some (.file (.ok document)))) :
    host.addLayer path settings =
      settings.merge (if document.truthy then document else .map []) := by
  unfold addLayer
  rw [found]
  rfl

theorem addLayer_eq_ok (adds : host.Adds path layer) (fields : List (Scalar × Document)) :
    ∃ merged, host.addLayer path (.map fields) = .ok (.map merged) ∧
      Layered (.map fields) layer (.map merged) := by
  cases adds with
  | absent missing =>
    refine ⟨fields, ?_, .unchanged⟩
    unfold addLayer
    rw [missing]
    rfl
  | empty found falsy =>
    refine ⟨fields, ?_, .unchanged⟩
    rw [addLayer_of_file found, falsy, if_neg Bool.false_ne_true,
      merge_eq_overlay (.map .nil nofun) rfl rfl]
    simp [overlay, overlayFields, opened]
  | @layer document found truthy isMap keyed =>
    obtain ⟨upper, isUpper⟩ := isMap_iff.1 isMap
    cases keyed.opened.symm.trans isUpper
    have merges : (Document.map fields).merge (.map upper) = _ :=
      merge_eq_overlay keyed isMap rfl
    refine ⟨overlayFields upper fields, ?_, .laid ?_ ?_⟩
    · rw [addLayer_of_file found, if_pos truthy, merges, overlay]
      rfl
    · rw [merges, overlay]
      rfl
    · have laid : LaidOver (.map upper) (.map fields) _ := laidOver_overlay keyed isMap rfl
      rw [overlay] at laid
      exact laid

theorem Layered.at?_of_leavesOpen {path : List Scalar} {value : Document}
    (layered : Layered settings layer merged)
    (leaves : ∀ document ∈ layer, document.LeavesOpen path)
    (found : settings.at? path = some value) : merged.at? path = some value := by
  cases layered with
  | unchanged => exact found
  | laid _ laid => exact laid.at?_of_leavesOpen (leaves _ rfl) found

/-! ## Result -/

/-- A map laid over another holds at each path what the rule for layers says. The settings in force
are the built-in ones, with the settings file laid over them by this rule and, where the environment
asks for local settings, the local file over both. A built-in setting stays in force when the layers
that take part leave its path open. -/
theorem settings_layered :
    (∀ lower upper : Document, lower.isMap = true → upper.isMap = true → upper.Keyed →
      ∃ merged, lower.merge upper = .ok merged ∧ LaidOver upper lower merged) ∧
    ∀ (host : Host) (base beside : Option Document), host.Adds host.settingsPath base →
      (Text.trim (host.environment.layer.getD "") = "local" →
        host.Adds (host.settingsPath.withWord ".local") beside) →
      ∃ middle final, Layered host.defaultSettings base middle ∧
        (Text.trim (host.environment.layer.getD "") = "local" → Layered middle beside final) ∧
        (Text.trim (host.environment.layer.getD "") ≠ "local" → final = middle) ∧
        host.settings = .ok final ∧
        ∀ path value, host.defaultSettings.at? path = some value →
          (∀ document ∈ base, document.LeavesOpen path) →
          (Text.trim (host.environment.layer.getD "") = "local" →
            ∀ document ∈ beside, document.LeavesOpen path) →
          final.at? path = some value := by
  refine ⟨fun lower upper lowerMap upperMap keyed => ?_,
    fun host base beside baseAdds besideAdds => ?_⟩
  · exact ⟨_, merge_eq_overlay keyed upperMap lowerMap, laidOver_overlay keyed upperMap lowerMap⟩
  · obtain ⟨middle, added, overDefaults⟩ := addLayer_eq_ok baseAdds _
    have based : host.addLayer host.settingsPath host.defaultSettings = .ok (.map middle) := added
    by_cases wanted : Text.trim (host.environment.layer.getD "") = "local"
    · obtain ⟨final, addedToo, overMiddle⟩ := addLayer_eq_ok (besideAdds wanted) middle
      refine ⟨_, .map final, overDefaults, fun _ => overMiddle, fun other => absurd wanted other,
        ?_, fun path value found leaves leavesToo => ?_⟩
      · rw [Host.settings, based, ok_bind, wantsLocal, wanted]
        exact addedToo
      · have inMiddle := overDefaults.at?_of_leavesOpen leaves found
        exact overMiddle.at?_of_leavesOpen (leavesToo wanted) inMiddle
    · refine ⟨_, .map middle, overDefaults, fun local' => absurd local' wanted, fun _ => rfl,
        ?_, fun path value found leaves _ => overDefaults.at?_of_leavesOpen leaves found⟩
      rw [Host.settings, based, ok_bind, wantsLocal, beq_false_of_ne wanted]
      rfl

/-- Settings for development builds. -/
def modeLayer : Document :=
  .map [(.text "build", .map [(.text "mode", .text "dev")])]

/-- Local settings with a text where the output is set. -/
def outputLayer : Document :=
  .map [(.text "output", .text "mask")]

/-- A machine with both layers. -/
def layeredHost : Host where
  root := "/"
  files := { current := [], entries :=
    [(["settings.yaml"], .file (.ok modeLayer)),
      (["settings.local.yaml"], .file (.ok outputLayer))] }
  environment := { config := some "/settings.yaml", layer := some " local " }

/-- The build's default set is left as it was, and the format of the output goes with the map that
it stood in. -/
theorem settings_layeredHost : ∃ final, layeredHost.settings = .ok final ∧
    final.at? [.text "build", .text "default_features"] = some (.bool true) ∧
    final.at? [.text "output", .text "format"] = none := by
  have wanted : Text.trim (layeredHost.environment.layer.getD "") = "local" := by decide
  have baseStands : layeredHost.files.find layeredHost.settingsPath =
      .found ["settings.yaml"] (.file (.ok modeLayer)) :=
    (FileTree.find_eq_follow (by decide) (by decide)).trans (by decide)
  have baseAdds : layeredHost.Adds layeredHost.settingsPath (some modeLayer) :=
    .layer (FileTree.find?_eq_some baseStands) rfl rfl (keyed_single (keyed_single (.scalar _)))
  have besideStands : layeredHost.files.find (layeredHost.settingsPath.withWord ".local") =
      .found ["settings.local.yaml"] (.file (.ok outputLayer)) :=
    (FileTree.find_eq_follow (by decide) (by decide)).trans (by decide)
  have besideAdds : layeredHost.Adds (layeredHost.settingsPath.withWord ".local")
      (some outputLayer) :=
    .layer (FileTree.find?_eq_some besideStands) rfl rfl (keyed_single (.scalar _))
  obtain ⟨middle, final, _, besideLaid, _, inForce, survives⟩ :=
    settings_layered.2 layeredHost _ _ baseAdds fun _ => besideAdds
  refine ⟨final, inForce, survives _ _ (by decide) ?_ ?_, ?_⟩
  · rintro _ ⟨⟩
    refine ⟨by decide, fun length nonempty before held found => ?_⟩
    cases Nat.le_antisymm (Nat.le_of_lt_succ before) nonempty
    cases found
    rfl
  · rintro _ _ ⟨⟩
    refine ⟨by decide, fun length nonempty before held found => ?_⟩
    cases Nat.le_antisymm (Nat.le_of_lt_succ before) nonempty
    cases found
  · cases besideLaid wanted with
    | laid _ laid =>
      have first : SupersedesFirst outputLayer middle [.text "output", .text "format"] 1 :=
        ⟨Nat.one_pos, by decide, ⟨.text "mask", rfl, .inl rfl⟩, by omega⟩
      exact (laid.replaced _ 1 first).trans rfl

end Host

end FeatureResolution
