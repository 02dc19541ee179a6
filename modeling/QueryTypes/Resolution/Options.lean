import QueryTypes.Json.Fields

/-!
Settings of static resolution and their JSON form.
-/

set_option autoImplicit false

namespace QueryTypes.Resolution

structure Options where
  /-- Time for one resolution, in milliseconds. -/
  timeoutMs : Nat
  /-- How deeply the evaluations of one resolution may nest. -/
  maxDepth : Nat
  /-- Names that make a tagged template a query. -/
  tags : List String
  /-- Names of functions that return their first argument, a query. -/
  wrappers : List String
  /-- Modules that wrappers are imported from. -/
  wrapperSources : List String
  /-- A declaration with this text in a comment before it is left alone. -/
  ignoreMarker : String
deriving DecidableEq

namespace Options

def standard : Options where
  timeoutMs := 100
  maxDepth := 1024
  tags := ["groq"]
  wrappers := ["defineQuery"]
  wrapperSources := ["groq", "next-sanity"]
  ignoreMarker := "@sanity-typegen-ignore"

def isQueryTag (options : Options) (name : String) : Bool := options.tags.contains name

def isWrapper (options : Options) (name : String) : Bool := options.wrappers.contains name

def isWrapperSource (options : Options) (source : String) : Bool :=
  options.wrapperSources.contains source

def fieldNames : List String :=
  ["timeoutMs", "maxDepth", "tagAllowList", "wrapperAllowList", "wrapperSources", "ignoreMarker"]

def ofJson? (defaults : Options) (source : Json) : Option Options := do
  match ← source.fields? fieldNames with
  | [timeoutMs, maxDepth, tags, wrappers, wrapperSources, ignoreMarker] =>
      return {
        timeoutMs := ← Json.withDefault? defaults.timeoutMs Json.toNat? timeoutMs
        maxDepth := ← Json.withDefault? defaults.maxDepth Json.toNat? maxDepth
        tags := ← Json.withDefault? defaults.tags Json.toTexts? tags
        wrappers := ← Json.withDefault? defaults.wrappers Json.toTexts? wrappers
        wrapperSources := ← Json.withDefault? defaults.wrapperSources Json.toTexts? wrapperSources
        ignoreMarker := ← Json.withDefault? defaults.ignoreMarker Json.toText? ignoreMarker }
  | _ => none

def parse? (source : String) : Option Options :=
  (Json.parseSelected? fieldNames.contains source).bind (ofJson? standard)

def toJson (options : Options) : Json :=
  .record [("timeoutMs", .nat options.timeoutMs), ("maxDepth", .nat options.maxDepth),
    ("tagAllowList", .ofList Json.text options.tags),
    ("wrapperAllowList", .ofList Json.text options.wrappers),
    ("wrapperSources", .ofList Json.text options.wrapperSources),
    ("ignoreMarker", .text options.ignoreMarker)]

end Options

/-- A span of milliseconds in its largest unit, a fraction of a second without final zeros. -/
def durationText (milliseconds : Nat) : String :=
  let seconds := milliseconds / 1000
  let rest := milliseconds % 1000
  if milliseconds = 0 then "0ns"
  else if seconds = 0 then toString rest ++ "ms"
  else if rest = 0 then toString seconds ++ "s"
  else
    let digits := [rest / 100, rest / 10 % 10, rest % 10].map Nat.digitChar
    let kept := (digits.reverse.dropWhile (· == '0')).reverse
    toString seconds ++ "." ++ String.ofList kept ++ "s"

end QueryTypes.Resolution
