import FeatureResolution.Proofs.Order
import FeatureResolution.Registry.Table

/-!
# Tables that list the same in another order

A table says the same as another when it declares the same flags in another order, with the names in
its default list and in the implications of each flag in another order or more than once
(`Rearranged`). Names are read as sets, so such lists are read alike, errors included
(`SameListed.readNames_eq`), and so is the declaration of each flag (`SameEntry.read_eq`).

Result: tables that say the same are accepted or refused together, and the registries that they make
are interchangeable.
-/

namespace FeatureResolution

/-- A field of two documents is the same, or lists the same items in both, in whatever order and
however often. -/
def SameListed (key : String) (first second : Document) : Prop :=
  first.field? key = second.field? key ∨
    ∃ list other items others, first.field? key = .ok (some list) ∧
      second.field? key = .ok (some other) ∧ list.elements = .ok items ∧
      other.elements = .ok others ∧ ∀ item, item ∈ items ↔ item ∈ others

/-- Two declarations of a flag that differ at most in the list of what it implies. -/
structure SameEntry (first second : Document) : Prop where
  implies : SameListed "implies" first second
  rest : ∀ key, key ≠ "implies" → first.field? key = second.field? key

/-- The second table declares the flags at the given positions of the first, with what each implies
and what is on by default listed in any way. -/
structure Rearranged (positions : List Nat) (table other : Document) : Prop where
  flags : ∃ entries others, Registry.readElements "flags" table = .ok entries ∧
    Registry.readElements "flags" other = .ok others ∧ Arranges positions entries ∧
    List.Forall₂ SameEntry (reorder positions entries) others
  defaults : SameListed "default" table other
  conflicts : table.field? "conflicts" = other.field? "conflicts"
  artifact : table.field? "artifact" = other.field? "artifact"

/-! ## Names -/

theorem name_eq_error {document : Document} {error : Error}
    (failed : (do Label.key (← (Label.ofDocument document : Except Error String))) =
      .error error) : error = .wrongShape := by
  rcases bind_eq_error_iff.1 failed with unread | ⟨label, _, unfit⟩
  · unfold Label.ofDocument at unread
    split at unread
    · cases unread
    · cases unread
      rfl
  · rw [Label.key, Label.isKey_text, if_pos rfl] at unfit
    cases unfit

theorem names_eq {list other : Document} {items others : List Document}
    (listed : list.elements = .ok items) (otherListed : other.elements = .ok others)
    (same : ∀ item, item ∈ items ↔ item ∈ others) :
    (list.names : Except Error (NameSet String)) = other.names := by
  unfold Document.names
  rw [listed, otherListed, ok_bind, ok_bind]
  -- Whichever item is no name, the error is the same, so it does not matter which comes first.
  rcases mapM_same_members Error.wrongShape (fun _ _ => name_eq_error) same with
    ⟨names, more, namesRead, moreRead, members⟩ | ⟨unread, otherUnread⟩
  · rw [namesRead, moreRead]
    have sets : NameSet.ofList names = NameSet.ofList more := by
      ext name
      rw [NameSet.mem_ofList, NameSet.mem_ofList, members]
    exact congrArg Except.ok sets
  · rw [unread, otherUnread]

theorem SameListed.readNames_eq {key : String} {first second : Document}
    (same : SameListed key first second) :
    (Flag.readNames key first : Except Error (NameSet String)) = Flag.readNames key second := by
  unfold Flag.readNames
  rcases same with same | ⟨list, other, _, _, found, otherFound, listed, otherListed, members⟩
  · rw [same]
  · rw [found, otherFound]
    exact names_eq listed otherListed members

/-! ## Flags -/

theorem field_of_field? (key : String) (document : Document) :
    document.field key =
      match document.field? key with
      | .ok (some value) => .ok value
      | .ok none => .error (.fault (.missingField key))
      | .error _ => .error .wrongShape := by
  unfold Document.field Document.field?
  cases document.opened with
  | map fields =>
    dsimp only
    cases Document.lookup (.text key) fields <;> rfl
  | scalar _ | list _ | set _ | pair _ _ | knot _ _ => rfl

theorem SameEntry.read_eq {first second : Document} (same : SameEntry first second) :
    (Flag.read first : Except Error (Flag String)) = Flag.read second := by
  have name : first.field "name" = second.field "name" := by
    rw [field_of_field?, field_of_field?, same.rest "name" (by decide)]
  have provides : (Flag.readNames "provides" first : Except Error (NameSet String)) =
      Flag.readNames "provides" second :=
    SameListed.readNames_eq (.inl (same.rest "provides" (by decide)))
  simp only [Flag.read, Flag.readContract, name, same.rest "artifact" (by decide),
    same.rest "requirement" (by decide), same.rest "dev_requirement" (by decide),
    same.rest "default" (by decide), same.implies.readNames_eq, same.rest "kind" (by decide),
    same.rest "description" (by decide), provides, same.rest "source" (by decide)]

theorem mapM_read_eq {entries others : List Document}
    (same : List.Forall₂ SameEntry entries others) :
    (others.mapM Flag.read : Except Error (List (Flag String))) = entries.mapM Flag.read := by
  induction same with
  | nil => rfl
  | cons head _ ih => rw [List.mapM_cons, List.mapM_cons, head.read_eq, ih]

/-! ## Tables -/

namespace Registry

variable {positions : List Nat} {table other : Document}

theorem ofTable_eq_ok_iff {table : Document} {registry : Registry String} :
    ofTable table = .ok registry ↔ ∃ artifact entries flags, readArtifact table = .ok artifact ∧
      readElements "flags" table = .ok entries ∧ entries.mapM Flag.read = .ok flags ∧
      ofParts flags table artifact = .ok registry := by
  rw [ofTable, bind_eq_ok_iff]
  refine exists_congr fun artifact => ?_
  constructor
  · rintro ⟨owned, made⟩
    obtain ⟨entries, listed, made⟩ := bind_eq_ok_iff.1 made
    obtain ⟨flags, flagsRead, made⟩ := bind_eq_ok_iff.1 made
    exact ⟨entries, flags, owned, listed, flagsRead, made⟩
  · rintro ⟨entries, flags, owned, listed, flagsRead, made⟩
    rw [listed, ok_bind, flagsRead, ok_bind]
    exact ⟨owned, made⟩

/-- Apart from its flags, a table and the rearranged one have the same parts. -/
theorem ofParts_eq (rearranged : Rearranged positions table other) (flags : List (Flag String))
    (artifact : Option (Artifact String)) :
    ofParts flags other artifact = ofParts flags table artifact := by
  rw [ofParts, ofParts, readElements, readElements, rearranged.defaults.readNames_eq,
    rearranged.conflicts]

theorem readArtifact_eq (rearranged : Rearranged positions table other) :
    (readArtifact other : Except Error (Option (Artifact String))) = readArtifact table := by
  rw [readArtifact, readArtifact, rearranged.artifact]

theorem wellFormed_of_ofTable {registry : Registry String} (made : ofTable table = .ok registry) :
    registry.WellFormed := by
  obtain ⟨_, _, _, _, _, _, assembled⟩ := ofTable_eq_ok_iff.1 made
  exact Constructed.wellFormed ⟨_, _, _, _, assembled⟩

/-- As many flags are read as are declared, so their positions are those of the declarations. -/
theorem arranges_of_mapM {entries : List Document} {flags : List (Flag String)}
    (arranges : Arranges positions entries) (flagsRead : entries.mapM Flag.read = .ok flags) :
    Arranges positions flags :=
  arranges.of_length (mapM_eq_ok_iff.1 flagsRead).length_eq.symm

theorem arranges_of_ofTable (rearranged : Rearranged positions table other)
    {registry : Registry String} (made : ofTable table = .ok registry) :
    Arranges positions registry.flags := by
  obtain ⟨entries, _, listed, _, arranges, _⟩ := rearranged.flags
  obtain ⟨_, _, _, _, listed', flagsRead, assembled⟩ := ofTable_eq_ok_iff.1 made
  cases listed.symm.trans listed'
  exact arranges_of_assemble (arranges_of_mapM arranges flagsRead) assembled

/-- The rearranged table becomes the registry with its flags rearranged, and only where the table
becomes one. -/
theorem ofTable_rearranged_iff (rearranged : Rearranged positions table other)
    {result : Registry String} : ofTable other = .ok result ↔
      ∃ registry, ofTable table = .ok registry ∧ result = registry.rearrange positions := by
  obtain ⟨entries, others, listed, otherListed, arranges, same⟩ := rearranged.flags
  constructor
  · intro made
    obtain ⟨artifact, _, _, owned, otherListed', othersRead, made⟩ := ofTable_eq_ok_iff.1 made
    cases otherListed.symm.trans otherListed'
    -- The entries of the other table are read as those of this one would be in that order.
    rw [mapM_read_eq same] at othersRead
    obtain ⟨flags, flagsRead, rfl⟩ := (mapM_reorder_eq_ok_iff arranges).1 othersRead
    have arrangesFlags := arranges_of_mapM arranges flagsRead
    rw [ofParts_eq rearranged, ofParts, assemble_reorder_iff arrangesFlags] at made
    obtain ⟨registry, assembled, rfl⟩ := made
    rw [readArtifact_eq rearranged] at owned
    exact ⟨registry,
      ofTable_eq_ok_iff.2 ⟨artifact, entries, flags, owned, listed, flagsRead, assembled⟩, rfl⟩
  · rintro ⟨registry, made, rfl⟩
    obtain ⟨artifact, _, flags, owned, listed', flagsRead, made⟩ := ofTable_eq_ok_iff.1 made
    cases listed.symm.trans listed'
    have arrangesFlags := arranges_of_mapM arranges flagsRead
    refine ofTable_eq_ok_iff.2 ⟨artifact, others, reorder positions flags, ?_, otherListed, ?_, ?_⟩
    · rw [readArtifact_eq rearranged, owned]
    · rw [mapM_read_eq same]
      exact (mapM_reorder_eq_ok_iff arranges).2 ⟨flags, flagsRead, rfl⟩
    · rw [ofParts_eq rearranged, ofParts, assemble_reorder_iff arrangesFlags]
      exact ⟨registry, made, rfl⟩

/-! ## Result -/

/-- The order in which a table declares flags, and the order and number in which it lists names,
carry no meaning beyond presentation: a table is accepted exactly when the rearranged one is, and
the two registries are interchangeable. -/
theorem ofTable_rearranged (positions : List Nat) (table other : Document)
    (rearranged : Rearranged positions table other) :
    ((∃ registry : Registry String, ofTable table = .ok registry) ↔
        ∃ registry : Registry String, ofTable other = .ok registry) ∧
      ∀ registry otherRegistry : Registry String, ofTable table = .ok registry →
        ofTable other = .ok otherRegistry →
          Interchangeable positions registry otherRegistry := by
  refine ⟨⟨?_, ?_⟩, ?_⟩
  · rintro ⟨registry, made⟩
    exact ⟨_, (ofTable_rearranged_iff rearranged).2 ⟨registry, made, rfl⟩⟩
  · rintro ⟨result, made⟩
    obtain ⟨registry, tableMade, _⟩ := (ofTable_rearranged_iff rearranged).1 made
    exact ⟨registry, tableMade⟩
  · intro registry otherRegistry made otherMade
    obtain ⟨same, tableMade, rfl⟩ := (ofTable_rearranged_iff rearranged).1 otherMade
    cases made.symm.trans tableMade
    exact interchangeable_rearrange (wellFormed_of_ofTable made)
      (arranges_of_ofTable rearranged made)

/-- The declaration of a flag that implies others and pins the artifact of its own name. -/
def pinnedEntry (name requirement : String) (implies : List String) : Document :=
  .map [(.text "name", .text name), (.text "requirement", .text requirement),
    (.text "implies", .list (implies.map .text))]

/-- A table of flags of which two exclude each other. -/
def tableOf (defaults : List String) (flags : List Document) : Document :=
  .map [(.text "default", .list (defaults.map .text)), (.text "flags", .list flags),
    (.text "conflicts", .list [.list [.text "tiny", .text "std"]])]

/-- A dependency pinned to one version, between a feature that leads to it and the default one. -/
def inOrder : Document :=
  tableOf ["std"] [pinnedEntry "derive" "" ["macros", "std"],
    pinnedEntry "macros" "=1.0.139" ["std"], pinnedEntry "std" "" [], pinnedEntry "tiny" "" []]

/-- The same flags in another order, with names repeated. -/
def outOfOrder : Document :=
  tableOf ["std", "std"] [pinnedEntry "std" "" [], pinnedEntry "tiny" "" [],
    pinnedEntry "derive" "" ["std", "macros", "std"], pinnedEntry "macros" "=1.0.139" ["std"]]

theorem ofTable_outOfOrder :
    Rearranged [2, 3, 0, 1] inOrder outOfOrder ∧
      ∃ registry otherRegistry : Registry String, ofTable inOrder = .ok registry ∧
        ofTable outOfOrder = .ok otherRegistry ∧
        registry.names = ["derive", "macros", "std", "tiny"] ∧
        Interchangeable [2, 3, 0, 1] registry otherRegistry := by
  have unchanged (entry : Document) : SameEntry entry entry := ⟨.inl rfl, fun _ _ => rfl⟩
  have derive : SameEntry (pinnedEntry "derive" "" ["macros", "std"])
      (pinnedEntry "derive" "" ["std", "macros", "std"]) := by
    refine ⟨.inr ⟨_, _, _, _, rfl, rfl, rfl, rfl, ?_⟩, fun key other => ?_⟩
    · simp
    · simp [Document.field?, Document.opened, pinnedEntry, Document.lookup, Ne.symm other]
  have rearranged : Rearranged [2, 3, 0, 1] inOrder outOfOrder := {
    flags := ⟨_, _, rfl, rfl, by decide,
      .cons (unchanged _) (.cons (unchanged _) (.cons derive (.cons (unchanged _) .nil)))⟩
    defaults := .inr ⟨_, _, _, _, rfl, rfl, rfl, rfl, by simp⟩
    conflicts := rfl
    artifact := rfl }
  obtain ⟨accepted, alike⟩ := ofTable_rearranged _ _ _ rearranged
  have made : (ofTable inOrder : Except Error (Registry String)) =
      .ok ⟨[{ name := "derive", implies := .ofList ["macros", "std"] },
        { name := "macros", implies := .ofList ["std"],
          contract := some ⟨"macros", "1.0.139", .exact⟩ },
        { name := "std", isDefault := true }, { name := "tiny" }], [("tiny", "std")], none⟩ := by
    decide
  obtain ⟨otherRegistry, otherMade⟩ := accepted.1 ⟨_, made⟩
  exact ⟨rearranged, _, otherRegistry, made, otherMade, rfl, alike _ _ made otherMade⟩

end Registry

end FeatureResolution
