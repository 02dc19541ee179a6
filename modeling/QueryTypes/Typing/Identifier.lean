/-!
Identifiers made from arbitrary names.

A run of characters that no identifier holds is dropped and the character after it is put into
upper case. A run at the end has no such character: there the run's own last character that is
not a line feed is put into upper case, and whatever is still invalid at the end is dropped.
-/

set_option autoImplicit false

namespace QueryTypes.Identifier

def isValid (char : Char) : Bool := char == '$' || char == '_' || char.isAlphanum

/-- The upper case of a character, as far as it can reach an identifier: letters of ASCII, and
the other characters whose upper case has a letter of ASCII in it. -/
def upperCase (char : Char) : List Char :=
  match char with
  | 'ß' => ['S', 'S']
  | 'ı' => ['I']
  | 'ŉ' => ['ʼ', 'N']
  | 'ſ' => ['S']
  | 'ǰ' => ['J', '\u030C']
  | 'ẖ' => ['H', '\u0331']
  | 'ẗ' => ['T', '\u0308']
  | 'ẘ' => ['W', '\u030A']
  | 'ẙ' => ['Y', '\u030A']
  | 'ẚ' => ['A', 'ʾ']
  | '\uFB00' => ['F', 'F']
  | '\uFB01' => ['F', 'I']
  | '\uFB02' => ['F', 'L']
  | '\uFB03' => ['F', 'F', 'I']
  | '\uFB04' => ['F', 'F', 'L']
  | '\uFB05' => ['S', 'T']
  | '\uFB06' => ['S', 'T']
  | _ => [char.toUpper]

def withoutLeadingDigit : List Char → List Char
  | [] => []
  | first :: rest => if first.isDigit then '_' :: rest else first :: rest

/-- What becomes of an invalid run at the end: its last character that is not a line feed is put
into upper case in place of all that precedes it, if anything does. -/
def finalRun (run : List Char) : List Char :=
  match run.reverse.dropWhile (· == '\n') with
  | last :: _ :: _ => upperCase last ++ (run.reverse.takeWhile (· == '\n')).reverse
  | _ => run

def joinRuns : List Char → List Char
  | [] => []
  | first :: rest =>
      if isValid first then first :: joinRuns rest
      else match _after : rest.dropWhile (fun char => !isValid char) with
        | next :: later => upperCase next ++ joinRuns later
        | [] => finalRun (first :: rest)
termination_by source => source.length
decreasing_by
  · simp
  · have shorter := (List.dropWhile_suffix (l := rest) fun char => !isValid char).length_le
    rw [_after] at shorter
    simp only [List.length_cons] at shorter ⊢
    omega

def trimEnd (source : List Char) : List Char :=
  (source.reverse.dropWhile fun char => !isValid char).reverse

def sanitize (name : String) : String :=
  String.ofList (trimEnd (joinRuns (withoutLeadingDigit name.toList)))

def normalize (name : String) : String :=
  match (sanitize name).toList with
  | first :: rest => String.ofList (upperCase first ++ rest)
  | [] => ""

def numbered (desired : String) (number : Nat) : String :=
  desired ++ "_" ++ toString number

def firstFree (taken : List String) (desired : String) : (fuel number : Nat) → String
  | 0, number => numbered desired number
  | fuel + 1, number =>
      if taken.contains (numbered desired number) then firstFree taken desired fuel (number + 1)
      else numbered desired number

/-- The desired name if it is free, and otherwise the first free one of the names numbered from
two on. One of the first `taken.length + 1` numbered names is free. -/
def unique (taken : List String) (desired : String) : String :=
  if taken.contains desired then firstFree taken desired taken.length 2 else desired

end QueryTypes.Identifier
