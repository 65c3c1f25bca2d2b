import FeatureResolution.Schema.Profile

/-!
# The files of the schemas

A schema also stands in a file of its own, as a document. These are the documents of the two schemas
of an installation. Rules that several fields share are written once, under `definitions`, and
referred to by name.
-/

namespace FeatureResolution.Shipped

/-! ## Parts of a schema's document -/

/-- A map with texts as names. -/
def record (fields : List (String × Document)) : Document :=
  .map (fields.map fun (name, value) => (.text name, value))

/-- Texts in a list. -/
def textList (texts : List String) : Document :=
  .list (texts.map .text)

/-- The rule that names a kind, with further rules. -/
def kindWith (kind : Kind) (rules : List (String × Document)) : Document :=
  record (("type", .text kind.name) :: rules)

/-- Any document of a kind. -/
def anyOf (kind : Kind) : Document :=
  kindWith kind []

/-- A text that is not empty. -/
def someText : Document :=
  kindWith .string [("minLength", .int 1)]

/-- One of some texts. -/
def choice (texts : List String) : Document :=
  kindWith .string [("enum", textList texts)]

/-- What a definition says. -/
def defined (name : String) : Document :=
  record [("$ref", .text ("#/definitions/" ++ name))]

/-- A list whose items keep a rule, with further rules. -/
def listOf (item : Document) (rules : List (String × Document)) : Document :=
  kindWith .array (("items", item) :: rules)

/-- A map with these fields and no others. -/
def closedMap (required : List String) (fields : List (String × Document)) : Document :=
  kindWith .object [
    ("required", textList required),
    ("additionalProperties", .bool false),
    ("properties", record fields)]

/-- The document of a schema: its head, the rules on its fields and its definitions. -/
def schemaFile (title description : String) (required : List String)
    (fields definitions : List (String × Document)) : Document :=
  record ([
    ("$schema", .text "http://json-schema.org/draft-07/schema#"),
    ("title", .text title),
    ("description", .text description),
    ("type", .text Kind.object.name),
    ("required", textList required),
    ("additionalProperties", .bool false),
    ("properties", record fields)] ++
    if definitions.isEmpty then [] else [("definitions", record definitions)])

/-! ## The documents -/

/-- The rules on the declaration of a flag. -/
def flagRules : Document :=
  closedMap ["name"] [
    ("name", defined "flag_name"),
    ("kind", choice ["feature", "dependency"]),
    ("default", anyOf .boolean),
    ("description", anyOf .string),
    ("implies", listOf (defined "flag_name") []),
    ("provides", listOf someText []),
    ("artifact", someText),
    ("requirement", defined "requirement"),
    ("dev_requirement", defined "requirement"),
    ("source", anyOf .object)]

/-- The document of the schema of manifests. -/
def manifestSchema : Document :=
  schemaFile "Feature Manifest"
    "Declarative flag table for an artifact: flags, defaults, implications, pins and conflicts"
    ["artifact", "flags"]
    [("artifact", closedMap ["name", "version"] [
        ("name", someText),
        ("version", kindWith .string [("pattern", .text Schema.versionPattern.source)])]),
     ("default", listOf (defined "flag_name") []),
     ("flags", kindWith .array [("minItems", .int 1), ("items", defined "flag")]),
     ("conflicts", listOf
        (listOf (defined "flag_name") [("minItems", .int 2), ("maxItems", .int 2)]) [])]
    [("flag_name", kindWith .string [
        ("pattern", .text Schema.flagNamePattern.source),
        ("not", record [("const", .text "default")])]),
     ("requirement", kindWith .string [("pattern", .text Schema.requirementPattern.source)]),
     ("flag", flagRules)]

/-- The document of the schema of profiles. -/
def profileSchema : Document :=
  schemaFile "Build Profile" ("A build request: requested flags, default handling, pin mode " ++
      "and declared artifact versions")
    ["name"]
    [("name", someText),
     ("description", anyOf .string),
     ("features", listOf someText []),
     ("default_features", anyOf .boolean),
     ("mode", choice ["release", "dev"]),
     ("artifacts", kindWith .object [("additionalProperties", someText)])]
    []

end FeatureResolution.Shipped
