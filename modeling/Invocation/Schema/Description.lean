import Invocation.Json.Basic
import Invocation.Spec.Basic

/-!
# Description of specifications

What a specification file may hold, as a JSON Schema that other programs can check files with.
-/

namespace Invocation

namespace Schema

abbrev Description := List (String × Json)

/-! ## Types -/

def typeOf (name : String) : Description := [("type", .text name)]

def listOf (item : Description) : Description := [("items", .record item)] ++ typeOf "array"

def mappingOf (value : Description) : Description := [("additionalProperties", .record value)] ++ typeOf "object"

def oneOf (words : List Text) : Description := [("enum", .texts words)] ++ typeOf "string"

def anyOf (choices : List Description) : Description := [("anyOf", .array (choices.map Json.record))]

def orNothing (d : Description) : Description := anyOf [d, typeOf "null"]

def definitionOf (name : String) : Description := [("$ref", .text ("#/$defs/" ++ name))]

/-! ## Fields -/

/-- A field under a heading. -/
def field (name heading : String) (d : Description) : String × Json :=
  (name, .record (d ++ [("title", .text heading)]))

/-- A field that may be left out. -/
def fieldOr (name heading : String) (default : Json) (d : Description) : String × Json :=
  field name heading (("default", default) :: d)

/-- A field that is null if it is left out. -/
def openField (name heading : String) (d : Description) : String × Json := fieldOr name heading .null (orNothing d)

/-- A record with its fields, of which some are required. -/
def recordOf (name description : String) (fields : List (String × Json)) (needed : List String) : Description :=
  [("description", .text description), ("properties", .record fields)]
    ++ (if needed.isEmpty then [] else [("required", .texts (needed.map Text.ofString))])
    ++ [("title", .text name)] ++ typeOf "object"

/-! ## Records -/

def entryDescription : Description :=
  recordOf "ArgumentEntry"
    ("One entry of the argument list.\n\n``kind`` selects the builder operation:\n"
      ++ "- plain: one argument (masked when ``sensitive``)\n- quoted: one argument wrapped in double quotes\n"
      ++ "- masked: one secret argument\n- tokenized: ``value`` split on whitespace\n"
      ++ "- key_value: ``prefix + key=value`` for every item of ``pairs``\n"
      ++ "- properties: like key_value, parsed from property text")
    [openField "name" "Name" (typeOf "string"),
      fieldOr "kind" "Kind" (.text EntryKind.plain.word) (oneOf (EntryKind.all.map EntryKind.word)),
      openField "value" "Value" [],
      fieldOr "prefix" "Prefix" (.text defaultLead) (typeOf "string"),
      field "pairs" "Pairs" ([("additionalProperties", .bool true)] ++ typeOf "object"),
      openField "properties" "Properties" (typeOf "string"),
      fieldOr "sensitive" "Sensitive" (.bool false) (typeOf "boolean")]
    []

def filterDescription : Description :=
  recordOf "FilterRule" "Filter rule for provider key filtering."
    [openField "include" "Include" (typeOf "string"), openField "exclude" "Exclude" (typeOf "string")] []

def providerDescription : Description :=
  recordOf "Provider" "Source of macro variables."
    [field "type" "Type" (oneOf (ProviderKind.all.map ProviderKind.word)),
      field "id" "Id" (typeOf "string"),
      openField "name" "Name" (typeOf "string"),
      fieldOr "enabled" "Enabled" (.bool true) (typeOf "boolean"),
      openField "hierarchical" "Hierarchical" (typeOf "boolean"),
      openField "filename" "Filename" (typeOf "string"),
      openField "path" "Path" (typeOf "string"),
      openField "precedence" "Precedence" (oneOf (Precedence.all.map Precedence.word)),
      field "filter_chain" "Filter Chain"
        (listOf (anyOf [definitionOf "FilterRule", mappingOf (typeOf "string"), typeOf "string"]))]
    ["type", "id"]

def specDescription : Description :=
  recordOf "CommandSpec" "Main command specification."
    [field "version" "Version" (typeOf "string"),
      field "command" "Command" (listOf (typeOf "string")),
      field "prepend" "Prepend" (listOf (typeOf "string")),
      fieldOr "windows" "Windows" (.bool false) (typeOf "boolean"),
      field "variables" "Variables" (mappingOf (typeOf "string")),
      field "variable_providers" "Variable Providers" (listOf (definitionOf "Provider")),
      field "arguments" "Arguments" (listOf (definitionOf "ArgumentEntry"))]
    ["version", "command"]

/-- The description of specifications, with those of the records in it. -/
def description : Json :=
  .record (("$defs", .record [
      ("ArgumentEntry", .record entryDescription),
      ("FilterRule", .record filterDescription),
      ("Provider", .record providerDescription)]) :: specDescription)

end Schema

end Invocation
