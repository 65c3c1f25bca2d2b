import FeatureResolution.Proofs.FeatureText
import FeatureResolution.Proofs.FlagLookup
import FeatureResolution.Proofs.TextLabel
import FeatureResolution.Proofs.WellFormed
import FeatureResolution.Surface

/-!
# What the printed forms of a build tell

The mask and the list of a set of flags lose nothing.

* The names at the places of the letter `Y` in a mask are the flags of the set in declaration order
  (`marked_mask`), so sets with the same mask have the same flags (`mask_eq_iff`).
* The lines of a list are the names of the flags in ascending order (`lines_list`), so sets with the
  same list have the same flags. This needs names that are texts without line breaks, and a set that
  is not empty, since the empty list of lines and the list of one empty line are printed alike.
-/

namespace FeatureResolution

open Label

variable {ν : Type} [Label ν]

/-! ## Lines of texts -/

namespace Text

/-- The lines of a text, one more than there are line breaks. -/
def lines (text : String) : List String :=
  (pieces (· == '\n') text.toList).map String.ofList

/-- Rows without line breaks, printed one on a line, are the lines of the print. -/
theorem lines_intercalate {rows : List String} (nonempty : rows ≠ [])
    (unbroken : ∀ row ∈ rows, '\n' ∉ row.toList) :
    lines (String.intercalate "\n" rows) = rows := by
  have chars : (String.intercalate "\n" rows).toList =
      ['\n'].intercalate (rows.map String.toList) := String.toList_intercalate
  rw [lines, pieces_eq_splitOnP, chars, ← List.splitOn_eq_splitOnP,
    List.splitOn_intercalate '\n' (List.forall_mem_map.2 unbroken) (by simpa using nonempty),
    List.map_map]
  simp [Function.comp_def]

/-- Sorting leaves what is in order as it is. -/
theorem sorted_of_ascending {texts : List String} (ascending : texts.Pairwise (· < ·)) :
    sorted texts = texts := by
  induction texts with
  | nil => rfl
  | cons head rest ih =>
    obtain ⟨headFirst, restAscending⟩ := List.pairwise_cons.1 ascending
    have step : sorted (head :: rest) = place id head (sorted rest) := rfl
    rw [step, ih restAscending]
    cases rest with
    | nil => rfl
    | cons next more =>
      have notBelow : ¬ id next < id head := String.lt_asymm (headFirst next List.mem_cons_self)
      rw [place, if_neg notBelow]

/-- No character of a text is half of one, so none is replaced. -/
theorem ofCodes_codes (text : String) : ofCodes (codes text) = text := by
  have charOf_toNat (c : Char) : charOf c.toNat = c := by
    have whole : isHalf c.toNat = false := by
      have valid : c.toNat < 0xD800 ∨ 0xDFFF < c.toNat ∧ c.toNat < 0x110000 := c.valid
      simp only [isHalf, Bool.and_eq_false_iff, decide_eq_false_iff_not]
      omega
    rw [charOf, whole, if_neg Bool.false_ne_true, Char.ofNat_toNat]
  simp [ofCodes, codes, charOf_toNat, Function.comp_def]

end Text

/-! ## Labels that denote texts -/

namespace Label

variable {label : ν} {text : String}

/-- What denotes a text is told as this text. -/
theorem told_of_same (denotes : same label (ofText text) = true) :
    ∃ value, document label = .scalar value ∧ value.asText? = some text := by
  have ranks : (document label).rank = ⟨5, 0, Text.codes text⟩ := by
    rw [same, decide_eq_true_eq, rank, rank, document_ofText] at denotes
    exact denotes
  have isText : (document label).family? = some .text :=
    Document.family_of_group (congrArg Rank.group ranks)
  obtain ⟨value, told, isValue, isTold⟩ := Document.exists_asText isText
  refine ⟨value, isValue, isTold.trans (congrArg some ?_)⟩
  have isCodes : value.rank.codes = Text.codes text := by
    rw [isValue] at ranks
    exact congrArg Rank.codes ranks
  cases value with
  | text value =>
    cases isTold
    exact Text.codes_inj.1 isCodes
  | brokenText codes =>
    cases isTold
    rw [← Text.ofCodes_codes text, ← isCodes]
    rfl
  | _ => cases isTold

theorem shown_of_same (denotes : same label (ofText text) = true) : shown label = text := by
  obtain ⟨value, isValue, isTold⟩ := told_of_same denotes
  rw [shown, isValue]
  cases value <;> first | exact Option.some.inj isTold | cases isTold

/-- Labels that denote texts are told as these texts. -/
theorem texts_eq_map_shown {labels : List ν}
    (denote : ∀ label ∈ labels, ∃ text, same label (ofText text) = true) :
    texts labels = .ok (labels.map shown) := by
  rw [texts, mapM_eq_ok_iff_map, List.map_map]
  refine List.map_congr_left fun label present => ?_
  obtain ⟨text, denotes⟩ := denote label present
  obtain ⟨value, isValue, isTold⟩ := told_of_same denotes
  simp only [isValue, isTold, Function.comp_apply, shown_of_same denotes, Option.elim_some]

theorem rank_of_same (denotes : same label (ofText text) = true) :
    rank label = ⟨5, 0, Text.codes (shown label)⟩ := by
  rw [shown_of_same denotes]
  rw [same, decide_eq_true_eq] at denotes
  rw [denotes, rank, document_ofText]
  rfl

/-- What denotes a text denotes the text it is told as. -/
theorem same_ofText_shown (denotes : same label (ofText text) = true) :
    same label (ofText (shown label)) = true := by
  rw [shown_of_same denotes, denotes]

/-- Texts are told apart as labels. -/
theorem same_ofText {first second : String} :
    same (ofText first : ν) (ofText second) = true ↔ first = second := by
  constructor
  · intro alike
    exact (shown_ofText first).symm.trans (shown_of_same alike)
  · rintro rfl
    exact same_refl (ofText first)

/-- Labels that denote texts are in the order of these texts. -/
theorem shown_lt {other : ν} {otherText : String} (denotes : same label (ofText text) = true)
    (otherDenotes : same other (ofText otherText) = true) (ordered : before label other = true) :
    shown label < shown other := by
  rw [before, rank_of_same denotes, rank_of_same otherDenotes, Rank.before_iff] at ordered
  simpa [Text.codes_lt] using ordered

end Label

namespace NameSet

variable {names : NameSet ν} {name : ν}

theorem ofText_mem_ofList {texts : List String} {text : String} :
    (ofText text : ν) ∈ ofList (texts.map ofText) ↔ text ∈ texts := by
  simp [mem_ofList_iff, same_ofText]

/-- The texts that the members are told as make up a set of texts. -/
theorem mem_ofList_shown
    (texts : ∀ member ∈ names.toList, ∃ text, same member (ofText text) = true) :
    name ∈ ofList ((names.toList.map shown).map ofText) ↔ name ∈ names := by
  have denotes {member : ν} (listed : member ∈ names.toList) :
      same member (ofText (shown member)) = true :=
    (texts member listed).elim fun _ => same_ofText_shown
  rw [mem_ofList_iff, List.map_map]
  constructor
  · rintro ⟨_, told, alike⟩
    obtain ⟨member, listed, rfl⟩ := List.mem_map.1 told
    exact (mem_congr (same_trans (denotes listed) alike)).1 (mem_of_mem_toList listed)
  · intro present
    obtain ⟨member, listed, alike⟩ := mem_iff.1 present
    refine ⟨ofText (shown member), List.mem_map_of_mem listed, same_trans ?_ alike⟩
    rw [same_comm, denotes listed]

end NameSet

namespace Registry

variable {registry : Registry ν} {capabilities : NameSet ν}

/-! ## Masks -/

/-- The names at whose places a mask has the letter `Y`. -/
def marked (names : List ν) (mask : String) : List ν :=
  ((names.zip mask.toList).filter fun place => place.2 == 'Y').map Prod.fst

theorem length_mask (registry : Registry ν) (capabilities : NameSet ν) :
    (registry.mask capabilities).length = registry.size := by
  rw [mask, String.length_ofList, List.length_map, names, List.length_map, size]

/-- The marked names are the flags of the set in declaration order. -/
theorem marked_mask (registry : Registry ν) (capabilities : NameSet ν) :
    marked registry.names (registry.mask capabilities) =
      registry.names.filter fun name => name ∈ capabilities := by
  rw [marked, mask, String.toList_ofList]
  induction registry.names with
  | nil => rfl
  | cons name rest ih =>
    by_cases enabled : name ∈ capabilities <;> simp [enabled, ih]

/-- The declared names that are in a set make up the set. -/
theorem mem_ofList_filter_names (declared : registry.HasAll capabilities) {name : ν} :
    name ∈ NameSet.ofList (registry.names.filter fun name => name ∈ capabilities) ↔
      name ∈ capabilities := by
  rw [NameSet.mem_ofList_iff]
  constructor
  · rintro ⟨member, kept, alike⟩
    exact (NameSet.mem_congr alike).1 (of_decide_eq_true (List.mem_filter.1 kept).2)
  · intro present
    obtain ⟨member, listed, alike⟩ := NameSet.mem_iff.1 present
    obtain ⟨flag, inTable, named⟩ := contains_eq_true_iff.1 (declared member listed)
    refine ⟨flag.name, List.mem_filter.2 ⟨List.mem_map_of_mem inTable, ?_⟩, same_trans named alike⟩
    exact decide_eq_true ((NameSet.mem_congr named).2 (NameSet.mem_of_mem_toList listed))

theorem mask_eq_iff {first second : NameSet ν} (firstDeclared : registry.HasAll first)
    (secondDeclared : registry.HasAll second) :
    registry.mask first = registry.mask second ↔ ∀ name, name ∈ first ↔ name ∈ second := by
  constructor
  · intro same name
    rw [← mem_ofList_filter_names firstDeclared, ← marked_mask, same, marked_mask,
      mem_ofList_filter_names secondDeclared]
  · intro same
    simp only [mask, same]

/-! ## Lists -/

/-- Every flag is called by a text without line breaks. -/
def NamedInLines (registry : Registry ν) : Prop :=
  ∀ name ∈ registry.names, ∃ text, same name (ofText text) = true ∧ '\n' ∉ text.toList

/-- The flags of a set are called by texts as the declared ones are. -/
theorem NamedInLines.denotes (named : registry.NamedInLines)
    (declared : registry.HasAll capabilities) :
    ∀ member ∈ capabilities.toList,
      ∃ text, same member (ofText text) = true ∧ '\n' ∉ text.toList := by
  intro member listed
  obtain ⟨flag, inTable, alike⟩ := contains_eq_true_iff.1 (declared member listed)
  obtain ⟨text, denotes, unbroken⟩ := named flag.name (List.mem_map_of_mem inTable)
  exact ⟨text, same_trans (same_comm member flag.name ▸ alike) denotes, unbroken⟩

theorem NamedInLines.denotesText (named : registry.NamedInLines)
    (declared : registry.HasAll capabilities) :
    ∀ member ∈ capabilities.toList, ∃ text, same member (ofText text) = true :=
  fun member listed => (named.denotes declared member listed).imp fun _ => And.left

theorem NamedInLines.ascending (named : registry.NamedInLines)
    (declared : registry.HasAll capabilities) :
    (capabilities.toList.map shown).Pairwise (· < ·) := by
  refine List.pairwise_map.2 (capabilities.ascending.imp_of_mem fun first second ordered => ?_)
  obtain ⟨_, firstDenotes⟩ := named.denotesText declared _ first
  obtain ⟨_, secondDenotes⟩ := named.denotesText declared _ second
  exact shown_lt firstDenotes secondDenotes ordered

theorem NamedInLines.render_list (named : registry.NamedInLines)
    (declared : registry.HasAll capabilities) :
    registry.render capabilities none .list =
      .ok (String.intercalate "\n" (capabilities.toList.map shown)) := by
  have told : texts capabilities.toList = .ok (capabilities.toList.map shown) :=
    texts_eq_map_shown (named.denotesText declared)
  rw [render, Option.getD_none, told, ok_bind, Text.sorted_of_ascending (named.ascending declared)]
  rfl

/-- The lines of a list are the names of the flags. -/
theorem NamedInLines.lines_list (named : registry.NamedInLines)
    (declared : registry.HasAll capabilities) (inhabited : capabilities ≠ ∅) :
    Text.lines (String.intercalate "\n" (capabilities.toList.map shown)) =
      capabilities.toList.map shown := by
  refine Text.lines_intercalate (fun noLines => inhabited ?_) fun row printed => ?_
  · rw [← NameSet.isEmpty_iff, NameSet.isEmpty, List.map_eq_nil_iff.1 noLines, List.isEmpty_nil]
  · obtain ⟨member, listed, rfl⟩ := List.mem_map.1 printed
    obtain ⟨text, denotes, unbroken⟩ := named.denotes declared member listed
    rwa [shown_of_same denotes]

theorem NamedInLines.mem_ofList_shown (named : registry.NamedInLines)
    (declared : registry.HasAll capabilities) (name : ν) :
    name ∈ NameSet.ofList ((capabilities.toList.map shown).map ofText) ↔ name ∈ capabilities :=
  NameSet.mem_ofList_shown (named.denotesText declared)

theorem NamedInLines.mem_map_shown (named : registry.NamedInLines)
    (declared : registry.HasAll capabilities) {text : String} :
    text ∈ capabilities.toList.map shown ↔ (ofText text : ν) ∈ capabilities := by
  rw [← named.mem_ofList_shown declared, NameSet.ofText_mem_ofList]

theorem NamedInLines.list_eq_iff (named : registry.NamedInLines) {first second : NameSet ν}
    (firstDeclared : registry.HasAll first) (secondDeclared : registry.HasAll second)
    (firstInhabited : first ≠ ∅) (secondInhabited : second ≠ ∅) :
    registry.render first none .list = registry.render second none .list ↔
      ∀ name, name ∈ first ↔ name ∈ second := by
  rw [named.render_list firstDeclared, named.render_list secondDeclared]
  constructor
  · intro alike name
    have rows : first.toList.map shown = second.toList.map shown := by
      rw [← named.lines_list firstDeclared firstInhabited, Except.ok.inj alike,
        named.lines_list secondDeclared secondInhabited]
    rw [← named.mem_ofList_shown firstDeclared, rows, named.mem_ofList_shown secondDeclared]
  · intro alike
    -- A strictly ascending list of texts is determined by its members.
    have rows : first.toList.map shown = second.toList.map shown := by
      refine NameSet.ascending_unique (named.ascending firstDeclared)
        (named.ascending secondDeclared) fun text => ?_
      rw [named.mem_map_shown firstDeclared, alike, named.mem_map_shown secondDeclared]
    rw [rows]

/-! ## Both lose nothing -/

/-- Of a registry made of a table, the mask has one letter for each flag, and the names at the
places of `Y` are the flags of the set in declaration order, each of them once; so sets of flags
with the same mask have the same members. Where names have no line breaks, the lines of the list of
a set that is not empty are its flags in ascending order, and so such sets with the same list have
the same members, too. -/
theorem render_lossless (flags : List (Flag ν)) (defaults : Except Error (NameSet ν))
    (conflicts : Except Error (List (Except Error (ν × ν)))) (artifact : Option (Artifact ν))
    (registry : Registry ν) (made : assemble flags defaults conflicts artifact = .ok registry) :
    (∀ capabilities items, registry.HasAll capabilities → ∃ mask,
        registry.render capabilities items .mask = .ok mask ∧ mask.length = registry.size ∧
          marked registry.names mask = registry.names.filter (fun name => name ∈ capabilities) ∧
          (marked registry.names mask).Pairwise (fun first second => same first second = false) ∧
          ∀ name, name ∈ NameSet.ofList (marked registry.names mask) ↔ name ∈ capabilities) ∧
      (∀ first second items, registry.HasAll first → registry.HasAll second →
        (registry.render first items .mask = registry.render second items .mask ↔
          ∀ name, name ∈ first ↔ name ∈ second)) ∧
      (registry.NamedInLines →
        (∀ capabilities, registry.HasAll capabilities → capabilities ≠ ∅ → ∃ list,
          registry.render capabilities none .list = .ok list ∧
            (Text.lines list).Pairwise (· < ·) ∧
            ∀ name, name ∈ NameSet.ofList ((Text.lines list).map ofText) ↔
              name ∈ capabilities) ∧
        ∀ first second, registry.HasAll first → registry.HasAll second → first ≠ ∅ → second ≠ ∅ →
          (registry.render first none .list = registry.render second none .list ↔
            ∀ name, name ∈ first ↔ name ∈ second)) := by
  refine ⟨fun capabilities items declared => ⟨registry.mask capabilities, rfl, ?_, ?_, ?_, ?_⟩,
    fun first second items firstDeclared secondDeclared => ?_, fun named =>
      ⟨fun capabilities declared inhabited => ⟨_, named.render_list declared, ?_, ?_⟩,
        fun first second => named.list_eq_iff⟩⟩
  · exact length_mask registry capabilities
  · exact marked_mask registry capabilities
  · rw [marked_mask]
    have distinct : registry.names.Pairwise fun first second => same first second = false :=
      List.pairwise_map.2 (indexed_of_assemble made).distinct
    exact distinct.filter _
  · rw [marked_mask]
    exact fun name => mem_ofList_filter_names declared
  · rw [← mask_eq_iff firstDeclared secondDeclared, render, render, Except.ok.injEq]
  · rw [named.lines_list declared inhabited]
    exact named.ascending declared
  · rw [named.lines_list declared inhabited]
    exact named.mem_ofList_shown declared

/-- Of two flags out of five the mask has the letter at the third and at the fourth place, and the
list tells them in ascending order. Another set of flags has another list. -/
theorem render_lossless_smallRegistry :
    smallRegistry.render (.ofList ["std", "rc"]) none .mask = .ok "NNYYN" ∧
      marked smallRegistry.names "NNYYN" = ["rc", "std"] ∧
      smallRegistry.render (.ofList ["std", "rc"]) none .list = .ok "rc\nstd" ∧
      (Text.lines "rc\nstd").Pairwise (· < ·) ∧
      smallRegistry.render (.ofList ["std", "rc"]) none .list ≠
        smallRegistry.render (.ofList ["std", "tiny"]) none .list := by
  have made : assemble smallRegistry.flags (.ok ∅) (.ok [.ok ("tiny", "std")]) none =
      .ok smallRegistry := by decide
  have named : smallRegistry.NamedInLines := by
    have unbroken : ∀ name ∈ smallRegistry.names, '\n' ∉ name.toList := by decide
    exact fun name listed => ⟨name, same_refl name, unbroken name listed⟩
  have declared : smallRegistry.HasAll (.ofList ["std", "rc"]) := by decide
  have othersDeclared : smallRegistry.HasAll (.ofList ["std", "tiny"]) := by decide
  have inhabited : (.ofList ["std", "rc"] : NameSet String) ≠ ∅ := by decide
  have isMask : smallRegistry.render (.ofList ["std", "rc"]) none .mask = .ok "NNYYN" := by decide
  have isList : smallRegistry.render (.ofList ["std", "rc"]) none .list = .ok "rc\nstd" := by
    decide
  obtain ⟨decoded, _, told⟩ := render_lossless _ _ _ _ _ made
  obtain ⟨inLines, sameList⟩ := told named
  obtain ⟨mask, printed, _, read, _⟩ := decoded (.ofList ["std", "rc"]) none declared
  obtain ⟨list, listed, ascending, _⟩ := inLines (.ofList ["std", "rc"]) declared inhabited
  obtain rfl : "NNYYN" = mask := Except.ok.inj (isMask.symm.trans printed)
  obtain rfl : "rc\nstd" = list := Except.ok.inj (isList.symm.trans listed)
  refine ⟨isMask, read.trans (by decide), isList, ascending, fun alike => ?_⟩
  have members := (sameList _ (.ofList ["std", "tiny"]) declared othersDeclared inhabited
    (by decide)).1 alike "rc"
  exact absurd members (by decide)

end Registry

end FeatureResolution
