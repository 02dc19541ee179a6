import QueryTypes.Text.WordCharacter

/-!
Parameters that bound array slices of a query.

A slice is `[first..last]` or `[first...last]`, and a bound is a run of digits or `$` with a
name. This is a textual scan: the query is not parsed.
-/

set_option autoImplicit false

namespace QueryTypes.Query

def readBound? : List Char → Option (Option String × List Char)
  | '$' :: rest =>
      let name := rest.takeWhile Text.isWord
      if name.isEmpty then none
      else some (some (String.ofList name), rest.dropWhile Text.isWord)
  | source =>
      if (source.takeWhile Text.isDecimalDigit).isEmpty then none
      else some (none, source.dropWhile Text.isDecimalDigit)

/-- Two or three dots at the start. No bound starts with a dot, so a third one belongs to them. -/
def readDots? : List Char → Option (List Char)
  | '.' :: '.' :: '.' :: rest => some rest
  | '.' :: '.' :: rest => some rest
  | _ => none

def readSlice? (source : List Char) : Option (List String) := do
  let (first, rest) ← readBound? source
  let rest ← readDots? rest
  let (last, rest) ← readBound? rest
  match rest with
  | ']' :: _ => some (first.toList ++ last.toList)
  | _ => none

/-- The parameters of all slices from here on. No slice holds an opening bracket but its first
character, so slices do not overlap. -/
def sliceBounds : List Char → List String
  | [] => []
  | '[' :: rest => (readSlice? rest).getD [] ++ sliceBounds rest
  | _ :: rest => sliceBounds rest

def sliceParameters (query : String) : List String :=
  (sliceBounds query.toList).eraseDups

end QueryTypes.Query
