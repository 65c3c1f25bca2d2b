import FeatureResolution.Proofs.LayeredDocuments

/-!
# Laws of layering

A map laid over another keeps the names of the lower one in their places, and the new names of the
upper one follow (`names_overlayFields`). Together with what is found under each name
(`lookup_overlayFields`) this determines the merged map (`fields_ext`), with the order and the
spelling of its names. So the laws of layering are equalities of documents:

* nothing changes when an empty layer is laid over a map or a map over an empty one;
* nothing changes when a layer is laid over itself (`overlay_self`);
* of three layers the upper two may be put together first (`overlay_assoc`), unless the middle one
  cuts the lowest off from the topmost: it holds something that is no map where both of them hold
  maps (`Unbroken`).
-/

namespace FeatureResolution.Document

variable {key : Scalar} {fields below others : List (Scalar × Document)}
  {lower middle upper : Document}

/-! ## Fields -/

/-- No two fields have one name. -/
abbrev DistinctNames (fields : List (Scalar × Document)) : Prop :=
  fields.Pairwise fun first second => first.1.same second.1 = false

theorem same_eq_false_of_lookup_eq_none (missing : lookup key fields = none) :
    ∀ field ∈ fields, field.1.same key = false := by
  induction fields with
  | nil => exact List.forall_mem_nil _
  | cons field rest ih =>
    rw [lookup] at missing
    split at missing
    · cases missing
    · next apart => exact List.forall_mem_cons.2 ⟨by simpa using apart, ih missing⟩

/-- Each field is found under its own name. -/
theorem lookup_of_mem (distinct : DistinctNames fields) {field : Scalar × Document}
    (present : field ∈ fields) : lookup field.1 fields = some field.2 := by
  induction fields with
  | nil => cases present
  | cons head rest ih =>
    obtain ⟨headApart, restDistinct⟩ := List.pairwise_cons.1 distinct
    rcases List.mem_cons.1 present with rfl | inRest
    · rw [lookup, if_pos (Scalar.same_refl field.1)]
    · rw [lookup, headApart field inRest, if_neg Bool.false_ne_true, ih restDistinct inRest]

/-- A map is determined by the order of its names and by what is found under them. -/
theorem fields_ext (distinct : DistinctNames fields)
    (names : fields.map Prod.fst = others.map Prod.fst)
    (found : ∀ name ∈ fields.map Prod.fst, lookup name fields = lookup name others) :
    fields = others := by
  induction fields generalizing others with
  | nil => exact (List.map_eq_nil_iff.1 names.symm).symm
  | cons field rest ih =>
    obtain ⟨name, value⟩ := field
    obtain ⟨⟨first, other⟩, more, rfl, isFirst, restNames⟩ := List.map_eq_cons_iff.1 names.symm
    cases isFirst
    obtain ⟨headApart, restDistinct⟩ := List.pairwise_cons.1 distinct
    obtain ⟨headFound, restFound⟩ := List.forall_mem_cons.1 found
    dsimp only at headFound
    rw [lookup, lookup, if_pos (Scalar.same_refl name), if_pos (Scalar.same_refl name)] at headFound
    cases headFound
    refine congrArg _ (ih restDistinct restNames.symm fun later present => ?_)
    obtain ⟨field, inRest, rfl⟩ := List.mem_map.1 present
    have passedBy := restFound field.1 present
    rwa [lookup, lookup, headApart field inRest] at passedBy

/-! ## The names of a merged map -/

theorem names_assign {value : Document} : (assign key value fields).map Prod.fst =
    if (lookup key fields).isSome then fields.map Prod.fst else fields.map Prod.fst ++ [key] := by
  induction fields with
  | nil => rfl
  | cons field rest ih =>
    obtain ⟨name, old⟩ := field
    rw [assign, lookup]
    cases name.same key with
    | true => rfl
    | false =>
      simp only [if_neg Bool.false_ne_true, List.map_cons, ih, List.cons_append]
      split <;> rfl

/-- The names of a merged map are those of the lower layer and, behind them, the new ones. -/
theorem names_overlayFields (distinct : DistinctNames fields) :
    (overlayFields fields below).map Prod.fst = below.map Prod.fst ++
      (fields.map Prod.fst).filter fun name => !(lookup name below).isSome := by
  induction fields generalizing below with
  | nil => exact (List.append_nil _).symm
  | cons field rest ih =>
    obtain ⟨name, value⟩ := field
    obtain ⟨headApart, restDistinct⟩ := List.pairwise_cons.1 distinct
    -- The names that follow are new below just when they are new after this one was added.
    have stillNew : ∀ later ∈ rest.map Prod.fst, ∀ value : Document,
        (!(lookup later (assign name value below)).isSome) = !(lookup later below).isSome := by
      intro later present value
      obtain ⟨field, inRest, rfl⟩ := List.mem_map.1 present
      rw [lookup_assign, Scalar.same_comm, headApart field inRest, if_neg Bool.false_ne_true]
    rw [overlayFields_cons, ih restDistinct, names_assign,
      List.filter_congr fun later present => stillNew later present _, List.map_cons]
    cases known : (lookup name below).isSome with
    | true => rw [if_pos rfl, List.filter_cons_of_neg (by simp [known])]
    | false =>
      rw [if_neg Bool.false_ne_true, List.filter_cons_of_pos (by simp [known]), List.append_assoc,
        List.singleton_append]

theorem isSome_lookup_overlayFields (distinct : DistinctNames fields) :
    (lookup key (overlayFields fields below)).isSome =
      ((lookup key below).isSome || (lookup key fields).isSome) := by
  rw [lookup_overlayFields distinct]
  cases lookup key fields <;> simp

theorem distinct_overlayFields (distinct : DistinctNames fields)
    (belowDistinct : DistinctNames below) : DistinctNames (overlayFields fields below) := by
  have names : ((overlayFields fields below).map Prod.fst).Pairwise fun first second =>
      first.same second = false := by
    rw [names_overlayFields distinct, List.pairwise_append]
    refine ⟨List.pairwise_map.2 belowDistinct, (List.pairwise_map.2 distinct).filter _, ?_⟩
    intro name present new isNew
    obtain ⟨field, inBelow, rfl⟩ := List.mem_map.1 present
    have missing : lookup new below = none := by simpa using (List.mem_filter.1 isNew).2
    exact same_eq_false_of_lookup_eq_none missing field inBelow
  exact List.pairwise_map.1 names

/-! ## Laws of fields -/

/-- A layer over an empty map is the layer. -/
theorem overlayFields_nil (distinct : DistinctNames fields) :
    overlayFields fields [] = fields := by
  refine fields_ext (distinct_overlayFields distinct .nil) ?_ fun name _ => ?_
  · rw [names_overlayFields distinct]
    exact List.filter_eq_self.2 fun _ _ => rfl
  · rw [lookup_overlayFields distinct]
    cases lookup name fields <;> rfl

/-- A layer over itself is the layer, if that holds of the values. -/
theorem overlayFields_self (distinct : DistinctNames fields)
    (values : ∀ field ∈ fields, overlay field.2 field.2 = field.2) :
    overlayFields fields fields = fields := by
  refine fields_ext (distinct_overlayFields distinct distinct) ?_ fun name _ => ?_
  · rw [names_overlayFields distinct, List.filter_eq_nil_iff.2, List.append_nil]
    intro name present
    obtain ⟨field, inFields, rfl⟩ := List.mem_map.1 present
    rw [lookup_of_mem distinct inFields]
    exact Bool.false_ne_true
  · rw [lookup_overlayFields distinct]
    cases found : lookup name fields with
    | none => rfl
    | some value =>
      obtain ⟨field, present, _, rfl⟩ := mem_of_lookup found
      exact congrArg some (values field present)

/-- Of three layers the upper two may be put together first, if that holds of the values under each
name that stands in all of them. -/
theorem overlayFields_assoc {low mid top : List (Scalar × Document)}
    (lowDistinct : DistinctNames low) (midDistinct : DistinctNames mid)
    (topDistinct : DistinctNames top)
    (values : ∀ name lower middle upper, lookup name low = some lower →
      lookup name mid = some middle → lookup name top = some upper →
        overlay upper (overlay middle lower) = overlay (overlay upper middle) lower) :
    overlayFields top (overlayFields mid low) = overlayFields (overlayFields top mid) low := by
  have upperDistinct := distinct_overlayFields topDistinct midDistinct
  refine fields_ext (distinct_overlayFields topDistinct
    (distinct_overlayFields midDistinct lowDistinct)) ?_ fun name _ => ?_
  · simp only [names_overlayFields, topDistinct, midDistinct, upperDistinct,
      isSome_lookup_overlayFields, List.filter_append, List.filter_filter, Bool.not_or,
      List.append_assoc]
  · simp only [lookup_overlayFields, topDistinct, midDistinct, upperDistinct]
    cases inTop : lookup name top with
    | none => rfl
    | some upper =>
      cases inMid : lookup name mid with
      | none => rfl
      | some middle =>
        cases inLow : lookup name low with
        | none => rfl
        | some lower => exact congrArg some (values name lower middle upper inLow inMid inTop)

/-! ## Laws of documents -/

theorem overlay_map : overlay (.map fields) (.map below) = .map (overlayFields fields below) := by
  rw [overlay]
  rfl

theorem overlay_self (keyed : upper.Keyed) : overlay upper upper = upper := by
  induction keyed with
  | map distinct _ ih => rw [overlay_map, overlayFields_self distinct ih]
  | _ => rfl

/-- What is laid over each other stays free of repeated names. -/
theorem Keyed.overlay (upperKeyed : upper.Keyed) (lowerKeyed : lower.Keyed) :
    (overlay upper lower).Keyed := by
  induction upperKeyed generalizing lower with
  | @map top distinct each ih =>
    by_cases lowerMap : lower.isMap = true
    · obtain ⟨low, isLow⟩ := isMap_iff.1 lowerMap
      cases lowerKeyed.opened.symm.trans isLow
      have merged := distinct_overlayFields distinct lowerKeyed.distinct
      rw [overlay_map]
      refine .map merged fun field present => ?_
      have found := lookup_of_mem merged present
      rw [lookup_overlayFields distinct] at found
      cases inTop : lookup field.1 top with
      | none =>
        rw [inTop] at found
        exact lowerKeyed.of_lookup found
      | some value =>
        obtain ⟨source, inFields, _, rfl⟩ := mem_of_lookup inTop
        rw [inTop] at found
        rw [← Option.some.inj found]
        cases inLow : lookup field.1 low with
        | none => exact each source inFields
        | some old => exact ih source inFields (lowerKeyed.of_lookup inLow)
    · rw [overlay_of_not_maps (.map distinct each) fun maps => lowerMap maps.2]
      exact .map distinct each
  | scalar | list | set | pair => constructor

/-- At no path do the lowest and the topmost layer hold maps while the middle one holds something
that is no map. -/
def Unbroken (lower middle upper : Document) : Prop :=
  ∀ path low mid top, lower.at? path = some low → middle.at? path = some mid →
    upper.at? path = some top → low.isMap = true → top.isMap = true → mid.isMap = true

theorem Unbroken.field {low mid top : List (Scalar × Document)}
    (unbroken : Unbroken (.map low) (.map mid) (.map top)) (inLow : lookup key low = some lower)
    (inMid : lookup key mid = some middle) (inTop : lookup key top = some upper) :
    Unbroken lower middle upper := by
  intro path lowest between topmost atLow atMid atTop
  refine unbroken (key :: path) lowest between topmost ?_ ?_ ?_
  · rwa [at?_of_lookup rfl inLow]
  · rwa [at?_of_lookup rfl inMid]
  · rwa [at?_of_lookup rfl inTop]

/-- Below two layers something that is no map does not show. -/
theorem overlay_assoc_of_not_isMap (middleKeyed : middle.Keyed) (upperKeyed : upper.Keyed)
    (notMap : lower.isMap = false) :
    overlay upper (overlay middle lower) = overlay (overlay upper middle) lower := by
  have apart (value : Document) : ¬ (value.isMap = true ∧ lower.isMap = true) := by simp [notMap]
  rw [overlay_of_not_maps middleKeyed (apart middle),
    overlay_of_not_maps (upperKeyed.overlay middleKeyed) (apart _)]

/-- Laying two layers over a third one after the other is laying them over it put together. -/
theorem overlay_assoc (lowerKeyed : lower.Keyed) (middleKeyed : middle.Keyed)
    (upperKeyed : upper.Keyed) (unbroken : Unbroken lower middle upper) :
    overlay upper (overlay middle lower) = overlay (overlay upper middle) lower := by
  induction lowerKeyed generalizing middle upper with
  | @map low distinct each ih =>
    by_cases upperMap : upper.isMap = true
    · have middleMap := unbroken [] _ _ _ rfl rfl rfl rfl upperMap
      obtain ⟨top, isTop⟩ := isMap_iff.1 upperMap
      cases upperKeyed.opened.symm.trans isTop
      obtain ⟨mid, isMid⟩ := isMap_iff.1 middleMap
      cases middleKeyed.opened.symm.trans isMid
      simp only [overlay_map]
      refine congrArg _ (overlayFields_assoc distinct middleKeyed.distinct upperKeyed.distinct ?_)
      intro name _ middle upper inLow inMid inTop
      obtain ⟨field, present, _, rfl⟩ := mem_of_lookup inLow
      exact ih field present (middleKeyed.of_lookup inMid) (upperKeyed.of_lookup inTop)
        (unbroken.field inLow inMid inTop)
    · -- A topmost layer that is no map stands whatever is below it.
      have apart (value : Document) : ¬ (upper.isMap = true ∧ value.isMap = true) :=
        fun maps => upperMap maps.1
      simp only [overlay_of_not_maps upperKeyed (apart _)]
  | scalar | list | set | pair => exact overlay_assoc_of_not_isMap middleKeyed upperKeyed rfl

/-- A layer that has been laid over something changes nothing the second time. -/
theorem overlay_overlay_self (lowerKeyed : lower.Keyed) (upperKeyed : upper.Keyed) :
    overlay upper (overlay upper lower) = overlay upper lower := by
  have unbroken : Unbroken lower upper upper := by
    intro path low mid top _ atMid atTop _ topMap
    cases atMid.symm.trans atTop
    exact topMap
  rw [overlay_assoc lowerKeyed upperKeyed upperKeyed unbroken, overlay_self upperKeyed]

/-! ## Result -/

/-- Merging is layering. An empty map changes nothing, over a map or below it, and a map changes
nothing when it is merged over itself or a second time. A merged map has the names of both. Three
maps can be merged from either side, unless the middle one holds something that is no map where the
other two hold maps. -/
theorem merge_laws (a b c : List (Scalar × Document)) (aKeyed : (Document.map a).Keyed)
    (bKeyed : (Document.map b).Keyed) (cKeyed : (Document.map c).Keyed) :
    (Document.map a).merge (.map []) = .ok (.map a) ∧
      (Document.map []).merge (.map a) = .ok (.map a) ∧
      (Document.map a).merge (.map a) = .ok (.map a) ∧
      ∃ ab bc, (Document.map a).merge (.map b) = .ok (.map ab) ∧
        (Document.map b).merge (.map c) = .ok (.map bc) ∧
        (Document.map ab).merge (.map b) = .ok (.map ab) ∧
        (∀ key, (lookup key ab).isSome = ((lookup key a).isSome || (lookup key b).isSome)) ∧
        (Unbroken (.map a) (.map b) (.map c) → ∃ abc,
          (Document.map ab).merge (.map c) = .ok (.map abc) ∧
            (Document.map a).merge (.map bc) = .ok (.map abc)) := by
  have merges {below layer : List (Scalar × Document)} (keyed : (Document.map layer).Keyed) :
      (Document.map below).merge (.map layer) = .ok (.map (overlayFields layer below)) := by
    rw [merge_eq_overlay keyed rfl rfl, overlay_map]
  have twice := overlay_overlay_self aKeyed bKeyed
  have bcKeyed := cKeyed.overlay bKeyed
  simp only [overlay_map] at twice bcKeyed
  refine ⟨?_, ?_, ?_, overlayFields b a, overlayFields c b, merges bKeyed, merges cKeyed, ?_,
    fun key => isSome_lookup_overlayFields bKeyed.distinct, fun unbroken => ?_⟩
  · rw [merges (.map .nil (List.forall_mem_nil _))]
    rfl
  · rw [merges aKeyed, overlayFields_nil aKeyed.distinct]
  · rw [merge_eq_overlay aKeyed rfl rfl, overlay_self aKeyed]
  · rw [merges bKeyed, twice]
  · have assoc := overlay_assoc aKeyed bKeyed cKeyed unbroken
    simp only [overlay_map] at assoc
    refine ⟨_, merges cKeyed, ?_⟩
    rw [merges bcKeyed, assoc]

/-- Settings for release builds. -/
def releaseFields : List (Scalar × Document) :=
  [(.text "build", .map [(.text "mode", .text "release"), (.text "default_features", .bool true)])]

/-- A layer for development builds. -/
def devFields : List (Scalar × Document) :=
  [(.text "build", .map [(.text "mode", .text "dev")])]

/-- A layer with a text where the output is set. -/
def maskFields : List (Scalar × Document) :=
  [(.text "output", .text "mask")]

/-- The topmost layer holds no map but itself, so the three can be merged from either side. -/
theorem merge_laws_maskFields : ∃ dev mask all,
    (Document.map releaseFields).merge (.map devFields) = .ok (.map dev) ∧
      (Document.map devFields).merge (.map maskFields) = .ok (.map mask) ∧
      (Document.map dev).merge (.map maskFields) = .ok (.map all) ∧
      (Document.map releaseFields).merge (.map mask) = .ok (.map all) := by
  have buildKeyed : (Document.map
      [(.text "mode", .text "release"), (.text "default_features", .bool true)]).Keyed :=
    .map (by decide) (by simp [Keyed.scalar])
  have unbroken : Unbroken (.map releaseFields) (.map devFields) (.map maskFields) := by
    rintro (_ | ⟨key, path⟩) low mid top atLow atMid atTop lowMap topMap
    · cases atMid
      rfl
    · obtain ⟨value, found, atValue⟩ := Option.bind_eq_some_iff.1 ((at?_cons rfl).symm.trans atTop)
      obtain ⟨_, present, _, rfl⟩ := mem_of_lookup found
      cases List.mem_singleton.1 present
      cases path with
      | nil =>
        cases atValue
        cases topMap
      | cons => cases atValue
  obtain ⟨_, _, _, dev, mask, overRelease, overDev, _, _, assoc⟩ :=
    merge_laws releaseFields devFields maskFields (keyed_single buildKeyed)
      (keyed_single (keyed_single (.scalar _))) (keyed_single (.scalar _))
  obtain ⟨all, either, other⟩ := assoc unbroken
  exact ⟨dev, mask, all, overRelease, overDev, either, other⟩

-- A number in between makes the difference: laid over the lowest layer it hides the map there.
example :
    let low : Document := .map [(.text "x", .map [(.text "y", .int 1)])]
    let mid : Document := .map [(.text "x", .int 0)]
    let top : Document := .map [(.text "x", .map [])]
    overlay top (overlay mid low) = top ∧ overlay (overlay top mid) low = low := by
  decide

end FeatureResolution.Document
