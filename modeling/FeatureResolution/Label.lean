import FeatureResolution.Error

/-!
# Labels

Flags, items, artifacts and versions are labelled. In every checked table the labels are texts, but
a table put together by hand may label things by any value. So what works on labels is written for
every type that is a `Label`: a label stands for a document, and by that document it is told from
other labels (`Label.same`), put in order (`Label.before`) and named in errors.

`String` and `Document` are the two types of labels. For texts everything is as simple as it looks:
two texts are the same label only if they are equal, they are ordered by code point, and every list
of texts has an order.
-/

namespace FeatureResolution

/-- What a document denotes as a name. Only simple values can be names; collections come last. -/
def Document.rank : Document → Rank
  | .scalar value => value.rank
  | other => ⟨10, 0, Text.codes other.written⟩

/-- The family of a simple value. -/
def Document.family? : Document → Option Family
  | .scalar value => some value.family
  | _ => none

/-- A type of labels. Every text is a label. -/
class Label (ν : Type) where
  document : ν → Document
  ofDocument? : Document → Option ν
  ofText : String → ν
  document_ofText (value : String) : document (ofText value) = .text value

namespace Label

/-- Texts are the labels that stand for texts. -/
instance : Label String where
  document := .text
  ofDocument?
    | .scalar value => value.asText?
    | _ => none
  ofText value := value
  document_ofText _ := rfl

/-- Every document is a label that stands for itself. -/
instance : Label Document where
  document value := value
  ofDocument? := some
  ofText := .text
  document_ofText _ := rfl

variable {ν : Type} [Label ν]

/-- Reads a label. -/
def ofDocument (value : Document) : Except Error ν :=
  match ofDocument? value with
  | some label => .ok label
  | none => .error .wrongShape

/-- What a label denotes. -/
def rank (label : ν) : Rank :=
  (document label).rank

/-- Whether two labels denote the same. -/
def same (first second : ν) : Bool :=
  decide (rank first = rank second)

/-- Whether two labels stand for documents that denote the same, whatever their shape. -/
def agrees (first second : ν) : Bool :=
  (document first).same (document second)

/-- The text of a label inside a sentence. -/
def shown (label : ν) : String :=
  (document label).shown

/-- Whether a label comes before another. -/
def before (first second : ν) : Bool :=
  (rank first).before (rank second)

/-- Whether something can be looked up under a label. -/
def isKey (label : ν) : Bool :=
  (document label).isScalar

/-- A label under which something is to be looked up. -/
def key (label : ν) : Except Error ν :=
  if isKey label then .ok label else .error .wrongShape

/-- Whether labels that differ from each other have a common order: there is at most one, or all are
of one family that has an order. -/
def haveOrder : List ν → Bool
  | [] => true
  | [_] => true
  | first :: rest =>
    let family := (document first).family?
    family != some .null && rest.all fun label => (document label).family? == family

/-- Labels that need to be put in order. -/
def ordered (labels : List ν) : Except Error (List ν) :=
  if haveOrder labels then .ok labels else .error .wrongShape

/-- Labels that need to be texts. -/
def texts (labels : List ν) : Except Error (List String) :=
  labels.mapM fun label =>
    match document label with
    | .scalar value => value.asText?.elim (.error .wrongShape) .ok
    | _ => .error .wrongShape

/-! ## Laws -/

theorem same_refl (label : ν) : same label label = true := by
  simp [same]

theorem same_comm (first second : ν) : same first second = same second first := by
  simp [same, eq_comm]

theorem same_trans {first second third : ν} (one : same first second = true)
    (two : same second third = true) : same first third = true := by
  simp only [same, decide_eq_true_eq] at *
  exact one.trans two

/-- What denotes the same is told from other labels alike. -/
theorem same_congr {first second : ν} (alike : same first second = true) (other : ν) :
    same other first = same other second := by
  have ranks : rank first = rank second := by simpa [same] using alike
  rw [same, same, ranks]

theorem before_trans {first second third : ν} (one : before first second = true)
    (two : before second third = true) : before first third = true :=
  Rank.before_trans one two

theorem before_of_not_before {first second : ν} (notBefore : before first second = false)
    (distinct : same first second = false) : before second first = true :=
  Rank.before_of_not_before notBefore (by simpa [same] using distinct)

/-! ## Texts -/

/-- A text is the same label only as itself. -/
@[simp] theorem same_text (first second : String) :
    same first second = decide (first = second) := by
  simp [same, rank, document, Document.rank, Scalar.rank, Text.codes_inj]

/-- Two texts agree only if they are equal. -/
@[simp] theorem agrees_text (first second : String) :
    agrees first second = decide (first = second) := by
  simp [agrees, document, Document.same]

/-- A text is shown as it is. -/
@[simp] theorem shown_text (label : String) : shown label = label :=
  rfl

/-- Texts come in the order of their code points. -/
@[simp] theorem before_text (first second : String) :
    before first second = decide (first < second) := by
  simp [before, rank, document, Document.rank, Scalar.rank, Rank.before, Text.codes_lt]

@[simp] theorem isKey_text (label : String) : isKey label = true :=
  rfl

@[simp] theorem haveOrder_text (labels : List String) : haveOrder labels = true := by
  match labels with
  | [] => rfl
  | [_] => rfl
  | _ :: _ :: _ => simp [haveOrder, document, Document.family?, Scalar.family]

@[simp] theorem ordered_text (labels : List String) : ordered labels = .ok labels := by
  simp [ordered]

@[simp] theorem texts_text (labels : List String) : texts labels = .ok labels := by
  induction labels with
  | nil => rfl
  | cons head rest ih =>
    unfold texts at ih ⊢
    rw [List.mapM_cons, ih]
    rfl

end Label

end FeatureResolution
