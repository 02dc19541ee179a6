import QueryTypes.Json.Fields

/-!
Settings of generation and their JSON form, in which a setting that is left out keeps its standard
value.
-/

set_option autoImplicit false

namespace QueryTypes.Typing

structure Options where
  /-- The schema's file, named above the default schema. -/
  schemaPath : Option String
  /-- Paths below this directory are shown relative to it. -/
  root : Option String
  /-- Whether the client module is told the types of queries. -/
  overloadClient : Bool
  /-- Whether the query module is told the types of the schema and of queries. -/
  augmentLanguage : Bool
deriving DecidableEq

namespace Options

def standard : Options := ⟨none, none, true, true⟩

def fieldNames : List String :=
  ["schemaPath", "root", "overloadClientMethods", "augmentGroqModule"]

def ofJson? (source : Json) : Option Options := do
  match ← source.fields? fieldNames with
  | [schemaPath, root, overloadClient, augmentLanguage] =>
      return {
        schemaPath := ← Json.optional? Json.toText? schemaPath
        root := ← Json.optional? Json.toText? root
        overloadClient := ← Json.withDefault? standard.overloadClient Json.toBool? overloadClient
        augmentLanguage :=
          ← Json.withDefault? standard.augmentLanguage Json.toBool? augmentLanguage }
  | _ => none

def parse? (source : String) : Option Options :=
  (Json.parseSelected? fieldNames.contains source).bind ofJson?

def toJson (options : Options) : Json :=
  .record [("schemaPath", .ofOption Json.text options.schemaPath),
    ("root", .ofOption Json.text options.root),
    ("overloadClientMethods", .boolean options.overloadClient),
    ("augmentGroqModule", .boolean options.augmentLanguage)]

end Options

end QueryTypes.Typing
