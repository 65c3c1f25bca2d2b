import FeatureResolution.Label
import FeatureResolution.Pattern
import FeatureResolution.Text.Sorted

/-!
# Schemas

A schema is a list of rules on a document and, through its fields and items, on the documents
inside it. `Schema.violations` lists everything that breaks a rule, in the order of the rules;
each `Violation` tells where it stands and why. `Schema.check` accepts a document without
violations and otherwise reports a single one: of those at the shortest path the one at the greatest
path, and there one whose value has the wrong kind before the others. Paths can only be compared
where the names of their fields have a common order, and a violation can only be reported where the
values that it quotes can be written out.
-/

namespace FeatureResolution

/-- The kinds of document that a schema can ask for. -/
inductive Kind where
  | object
  | array
  | string
  | boolean
deriving DecidableEq, Repr

namespace Kind

/-- The name of a kind. -/
def name : Kind → String
  | .object => "object"
  | .array => "array"
  | .string => "string"
  | .boolean => "boolean"

/-- Whether a document is of a kind. -/
def admits (kind : Kind) (document : Document) : Bool :=
  match kind, document.opened with
  | .object, .map _ => true
  | .array, .list _ => true
  | .string, .scalar value => value.asText?.isSome
  | .boolean, .bool _ => true
  | _, _ => false

end Kind

mutual
/-- A schema: rules, checked in their order. -/
inductive Schema where
  | rules (rules : List Rule)

/-- A rule on a document. A rule that does not concern a document's kind is kept by it. -/
inductive Rule where
  /-- The document is of a kind. -/
  | kind (kind : Kind)
  /-- A map has these fields. -/
  | required (names : List String)
  /-- A map has no other fields than these. -/
  | closed (names : List String)
  /-- Every field of a map keeps a schema. -/
  | eachField (schema : Schema)
  /-- The fields of a map keep their schemas. -/
  | fields (schemas : List (String × Schema))
  /-- The items of a list keep a schema. -/
  | items (schema : Schema)
  /-- A list has at least so many items. -/
  | minItems (least : Nat)
  /-- A list has at most so many items. -/
  | maxItems (most : Nat)
  /-- A text has at least so many characters. -/
  | minLength (least : Nat)
  /-- A text matches a pattern. -/
  | pattern (pattern : Pattern)
  /-- The document is one of these texts. -/
  | oneOf (names : List String)
  /-- The document is not this text. -/
  | notText (name : String)
end

/-! ## Violations -/

/-- A step from a document to one inside it. -/
inductive Step where
  | field (name : Scalar)
  | item (index : Nat)
deriving DecidableEq, Repr

namespace Step

/-- The text of a step. -/
def shown : Step → String
  | .field name => name.shown
  | .item index => toString index

/-- A step as a value: the name of the field or the number of the item. -/
def value : Step → Scalar
  | .field name => name
  | .item index => .int index

/-- Whether a step comes before a different one; what is no number comes before nothing and after
nothing. -/
def before (first second : Step) : Except Error Bool :=
  if Label.haveOrder [Document.scalar first.value, Document.scalar second.value] then
    .ok (!first.value.isNotNumber && !second.value.isNotNumber &&
      first.value.rank.before second.value.rank)
  else .error .wrongShape

end Step

/-- Why a document breaks a rule. -/
inductive Cause where
  | wrongKind (kind : Kind)
  | missingField (name : String)
  | extraFields (names : List Scalar)
  | tooShort (least : Nat)
  | tooLong
  | noMatch (pattern : Pattern)
  | notOneOf (names : List String)
  | isText (name : String)
deriving DecidableEq, Repr

/-- A broken rule: the way to the document that breaks it, that document, whether it is of the kind
its schema names, and the cause. -/
structure Violation where
  path : List Step
  document : Document
  kindFits : Bool
  cause : Cause
deriving DecidableEq, Repr

/-- Names written out, separated by commas. -/
def enumerate (names : List Scalar) : String :=
  String.intercalate ", " (names.map Scalar.written)

/-- The wording of a broken rule. -/
def Cause.message (document : Document) : Cause → String
  | .wrongKind kind => document.written ++ " is not of type " ++ Text.quote kind.name
  | .missingField name => Text.quote name ++ " is a required property"
  | .extraFields names =>
    "Additional properties are not allowed (" ++ enumerate names ++
      (if names.length = 1 then " was" else " were") ++ " unexpected)"
  | .tooShort least =>
    document.written ++ (if least = 1 then " should be non-empty" else " is too short")
  | .tooLong => document.written ++ " is too long"
  | .noMatch pattern => document.written ++ " does not match " ++ Text.quote pattern.source
  | .notOneOf names => document.written ++ " is not one of " ++ quotedList names
  | .isText name =>
    document.written ++ " should not be valid under \x7b'const': " ++ Text.quote name ++ "\x7d"

/-- Whether everything that the wording of a broken rule quotes can be written out. -/
def Cause.isWritable (document : Document) : Cause → Bool
  | .missingField _ => true
  | .extraFields names => names.all Scalar.isWritable
  | _ => document.isWritable

/-- The place of a violation, from the outside in. -/
def Violation.place (violation : Violation) : String :=
  if violation.path.isEmpty then "root"
  else String.intercalate " -> " (violation.path.map Step.shown)

/-- A violation in one line. -/
def Violation.message (violation : Violation) : String :=
  "Schema validation failed at '" ++ violation.place ++ "': " ++
    violation.cause.message violation.document

/-- A violation seen from the document around it. A null as the name of a field names nothing, and
what stands there is reported at the map itself. -/
def Violation.under (step : Step) (violation : Violation) : Violation :=
  if step = .field .null then violation else { violation with path := step :: violation.path }

/-! ## Checking -/

/-- The names of fields outside a list of names, in the order of their texts. -/
def extraNames (names : List String) (fields : List (Scalar × Document)) : List Scalar :=
  Text.sortedBy Scalar.shown
    ((fields.map (·.1)).filter fun name => !names.any fun known => name.same (.text known))

/-- The kind that a list of rules asks for. -/
def Rule.expectedKind? : List Rule → Option Kind
  | [] => none
  | .kind expected :: _ => some expected
  | _ :: rest => expectedKind? rest

mutual
/-- Everything in a document that breaks a rule of a schema. -/
def Schema.violations : Schema → Document → List Violation
  | .rules rules, document =>
    let fits :=
      match Rule.expectedKind? rules with
      | some kind => kind.admits document
      | none => false
    rulesViolations rules fits document

/-- Everything that breaks one of the rules. -/
def rulesViolations : List Rule → Bool → Document → List Violation
  | [], _, _ => []
  | rule :: rest, fits, document =>
    ruleViolations rule fits document ++ rulesViolations rest fits document

/-- Everything that breaks a rule. -/
def ruleViolations (rule : Rule) (fits : Bool) (document : Document) : List Violation :=
  let broken (cause : Cause) : Violation := ⟨[], document, fits, cause⟩
  match rule, document.opened with
  | .kind expected, _ => if expected.admits document then [] else [broken (.wrongKind expected)]
  | .required names, .map fields =>
    (names.filter fun name => (Document.lookup (.text name) fields).isNone).map fun name =>
      broken (.missingField name)
  | .closed names, .map fields =>
    match extraNames names fields with
    | [] => []
    | extra => [broken (.extraFields extra)]
  | .eachField schema, .map fields =>
    fields.flatMap fun (name, value) => (schema.violations value).map (·.under (.field name))
  | .fields schemas, .map fields => fieldsViolations schemas fields
  | .items schema, .list items =>
    items.zipIdx.flatMap fun (item, index) =>
      (schema.violations item).map (·.under (.item index))
  | .minItems least, .list items => if items.length < least then [broken (.tooShort least)] else []
  | .maxItems most, .list items => if most < items.length then [broken .tooLong] else []
  | .minLength least, .text value => if value.length < least then [broken (.tooShort least)] else []
  | .minLength least, .scalar (.brokenText codes) =>
    if codes.length < least then [broken (.tooShort least)] else []
  | .pattern form, .text value => if form.accepts value then [] else [broken (.noMatch form)]
  | .pattern form, .scalar (.brokenText codes) =>
    if form.accepts (Text.ofCodes codes) then [] else [broken (.noMatch form)]
  | .oneOf names, shape =>
    if names.any fun name => shape = .text name then [] else [broken (.notOneOf names)]
  | .notText name, shape => if shape = .text name then [broken (.isText name)] else []
  | _, _ => []

/-- Everything that breaks the schema of a field. -/
def fieldsViolations :
    List (String × Schema) → List (Scalar × Document) → List Violation
  | [], _ => []
  | (name, schema) :: rest, fields =>
    (match Document.lookup (.text name) fields with
    | some value => (schema.violations value).map (·.under (.field (.text name)))
    | none => []) ++ fieldsViolations rest fields
end

/-! ## The violation to report -/

/-- Whether a path comes before another of the same length. -/
def pathBefore : List Step → List Step → Except Error Bool
  | a :: as, b :: bs => if a.value.same b.value then pathBefore as bs else a.before b
  | _, _ => .ok false

/-- Whether two paths consist of the same steps. -/
def samePath (first second : List Step) : Bool :=
  first.length == second.length &&
    (first.zip second).all fun (a, b) => a.value.same b.value

/-- Whether the second violation is to be reported rather than the first: it stands at a shorter
path, or at a greater path of the same length, or at the same path has the wrong kind where the
first has not. -/
def Violation.yieldsTo (first second : Violation) : Except Error Bool :=
  if second.path.length < first.path.length then .ok true
  else if first.path.length < second.path.length then .ok false
  else if samePath first.path second.path then .ok (first.kindFits && !second.kindFits)
  else pathBefore first.path second.path

/-- The violation to report; the first one of equal weight. The values that a violation quotes are
written out when its turn comes. -/
def Violation.best (first : Violation) (rest : List Violation) : Except Error Violation := do
  needWritable (first.cause.isWritable first.document)
  rest.foldlM
    (fun best other => do
      needWritable (other.cause.isWritable other.document)
      return if ← best.yieldsTo other then other else best)
    first

/-- What a document breaks of a schema: nothing, or the violation to report. -/
def Schema.check (schema : Schema) (document : Document) : Except Error (Option Violation) :=
  match schema.violations document with
  | [] => .ok none
  | first :: rest => do
    let best ← Violation.best first rest
    needWritable (best.path.all fun step => step.value.isWritable)
    return some best

end FeatureResolution
