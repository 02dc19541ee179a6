import QueryTypes.Json.Basic

/-!
Reading a JSON text: one document with blanks around it, and nothing more lenient than the
format itself.

Checked reading also asks that every number is in range, that every escape names a whole
character and that containers are not nested too deeply. Values that nobody asks for are read
unchecked: only their grammar counts.
-/

set_option autoImplicit false

namespace QueryTypes.Json

def isBlank (char : Char) : Bool :=
  char == ' ' || char == '\t' || char == '\n' || char == '\r'

def skipBlank (source : List Char) : List Char := source.dropWhile isBlank

def hexValue? (char : Char) : Option Nat :=
  if '0' ≤ char ∧ char ≤ '9' then some (char.toNat - '0'.toNat)
  else if 'a' ≤ char ∧ char ≤ 'f' then some (char.toNat - 'a'.toNat + 10)
  else if 'A' ≤ char ∧ char ≤ 'F' then some (char.toNat - 'A'.toNat + 10)
  else none

def codeUnit? (first second third fourth : Char) : Option Nat := do
  let first ← hexValue? first
  let second ← hexValue? second
  let third ← hexValue? third
  let fourth ← hexValue? fourth
  return ((first * 16 + second) * 16 + third) * 16 + fourth

def isHighSurrogate (unit : Nat) : Bool := decide (0xD800 ≤ unit ∧ unit ≤ 0xDBFF)

def isLowSurrogate (unit : Nat) : Bool := decide (0xDC00 ≤ unit ∧ unit ≤ 0xDFFF)

def surrogatePair (high low : Nat) : Char :=
  Char.ofNat (0x10000 + (high - 0xD800) * 0x400 + (low - 0xDC00))

def simpleEscape? : Char → Option Char
  | '"' => some '"'
  | '\\' => some '\\'
  | '/' => some '/'
  | 'b' => some '\x08'
  | 'f' => some '\x0c'
  | 'n' => some '\n'
  | 'r' => some '\r'
  | 't' => some '\t'
  | _ => none

def withFirst (char : Char) (read : List Char × List Char) : List Char × List Char :=
  (char :: read.1, read.2)

/-- The text up to the closing quote and what follows it. A surrogate without its partner is
an error when checked and stands for the replacement character otherwise. -/
def readQuoted (checked : Bool) : List Char → Option (List Char × List Char)
  | [] => none
  | '"' :: rest => some ([], rest)
  | '\\' :: 'u' :: a :: b :: c :: d :: '\\' :: 'u' :: e :: f :: g :: h :: rest => do
      let unit ← codeUnit? a b c d
      let next ← codeUnit? e f g h
      if isHighSurrogate unit && isLowSurrogate next then
        (readQuoted checked rest).map (withFirst (surrogatePair unit next))
      else if isHighSurrogate unit || isLowSurrogate unit then
        if checked then none
        else (readQuoted checked ('\\' :: 'u' :: e :: f :: g :: h :: rest)).map (withFirst '\uFFFD')
      else
        (readQuoted checked ('\\' :: 'u' :: e :: f :: g :: h :: rest)).map
          (withFirst (Char.ofNat unit))
  | '\\' :: 'u' :: a :: b :: c :: d :: rest => do
      let unit ← codeUnit? a b c d
      if isHighSurrogate unit || isLowSurrogate unit then
        if checked then none else (readQuoted checked rest).map (withFirst '\uFFFD')
      else (readQuoted checked rest).map (withFirst (Char.ofNat unit))
  | '\\' :: escape :: rest => do
      let char ← simpleEscape? escape
      (readQuoted checked rest).map (withFirst char)
  | char :: rest =>
      if char.toNat < 32 then none else (readQuoted checked rest).map (withFirst char)

def readWhole? (source : List Char) : Option (Nat × List Char) :=
  match source with
  | '0' :: rest => if (rest.takeWhile Char.isDigit).isEmpty then some (0, rest) else none
  | _ =>
      let digits := source.takeWhile Char.isDigit
      if digits.isEmpty then none
      else some (Number.digitsValue 0 digits, source.dropWhile Char.isDigit)

def readFraction? : List Char → Option (List (Fin 10) × List Char)
  | '.' :: rest =>
      let digits := rest.takeWhile Char.isDigit
      if digits.isEmpty then none
      else some (digits.map fun digit => Fin.ofNat 10 (Number.digitValue digit),
        rest.dropWhile Char.isDigit)
  | rest => some ([], rest)

def readPower? : List Char → Option (Option Int × List Char)
  | [] => some (none, [])
  | mark :: rest =>
      if mark == 'e' || mark == 'E' then
        let (negative, unsigned) := Number.readSign rest
        let digits := unsigned.takeWhile Char.isDigit
        let value : Int := Number.digitsValue 0 digits
        if digits.isEmpty then none
        else some (some (if negative then -value else value), unsigned.dropWhile Char.isDigit)
      else some (none, mark :: rest)

def readNumeral? (source : List Char) : Option (Numeral × List Char) := do
  let (negative, unsigned) := match source with
    | '-' :: rest => (true, rest)
    | rest => (false, rest)
  let (whole, rest) ← readWhole? unsigned
  let (fraction, rest) ← readFraction? rest
  let (exponent, rest) ← readPower? rest
  return (⟨negative, whole, fraction, exponent⟩, rest)

mutual

def readValue (checked : Bool) :
    (fuel depth : Nat) → List Char → Option (Json × List Char)
  | 0, _, _ => none
  | fuel + 1, depth, source =>
      match skipBlank source with
      | '"' :: rest => (readQuoted checked rest).map fun (string, rest) =>
          (.text (String.ofList string), rest)
      | '[' :: rest =>
          if depth = 0 then none
          else match skipBlank rest with
            | ']' :: rest => some (.list [], rest)
            | _ => (readItems checked fuel (depth - 1) rest).map fun (items, rest) =>
                (.list items, rest)
      | '\x7b' :: rest =>
          if depth = 0 then none
          else match skipBlank rest with
            | '\x7d' :: rest => some (.record [], rest)
            | _ => (readMembers checked fuel (depth - 1) rest).map fun (members, rest) =>
                (.record members, rest)
      | 'n' :: 'u' :: 'l' :: 'l' :: rest => some (.null, rest)
      | 't' :: 'r' :: 'u' :: 'e' :: rest => some (.boolean true, rest)
      | 'f' :: 'a' :: 'l' :: 's' :: 'e' :: rest => some (.boolean false, rest)
      | unread => do
          let (numeral, rest) ← readNumeral? unread
          if checked && numeral.toNumber?.isNone then none else some (.number numeral, rest)

def readItems (checked : Bool) :
    (fuel depth : Nat) → List Char → Option (List Json × List Char)
  | 0, _, _ => none
  | fuel + 1, depth, source => do
      let (item, rest) ← readValue checked fuel depth source
      match skipBlank rest with
      | ',' :: rest =>
          let (items, rest) ← readItems checked fuel depth rest
          return (item :: items, rest)
      | ']' :: rest => return ([item], rest)
      | _ => none

def readMembers (checked : Bool) :
    (fuel depth : Nat) → List Char → Option (List (String × Json) × List Char)
  | 0, _, _ => none
  | fuel + 1, depth, source =>
      match skipBlank source with
      | '"' :: rest => do
          let (key, rest) ← readQuoted checked rest
          match skipBlank rest with
          | ':' :: rest =>
              let (value, rest) ← readValue checked fuel depth rest
              match skipBlank rest with
              | ',' :: rest =>
                  let (members, rest) ← readMembers checked fuel depth rest
                  return ((String.ofList key, value) :: members, rest)
              | '\x7d' :: rest => return ([(String.ofList key, value)], rest)
              | _ => none
          | _ => none
      | _ => none

end

/-- Members up to the closing brace of which only the selected ones are kept and checked. -/
def readSelected (selected : String → Bool) (depth : Nat) :
    (fuel : Nat) → List Char → Option (List (String × Json) × List Char)
  | 0, _ => none
  | fuel + 1, source =>
      match skipBlank source with
      | '"' :: rest => do
          let (key, rest) ← readQuoted true rest
          let name := String.ofList key
          match skipBlank rest with
          | ':' :: rest =>
              let (value, rest) ←
                if selected name then readValue true fuel depth rest
                else readValue false fuel fuel rest
              let kept := if selected name then [(name, value)] else []
              match skipBlank rest with
              | ',' :: rest =>
                  let (members, rest) ← readSelected selected depth fuel rest
                  return (kept ++ members, rest)
              | '\x7d' :: rest => return (kept, rest)
              | _ => none
          | _ => none
      | _ => none

/-- Enough fuel for any text: each call of the reader is paid by at most two characters. -/
def fuelFor (source : List Char) : Nat := 2 * source.length + 2

def complete {α : Type} : Option (α × List Char) → Option α
  | some (value, rest) => if (skipBlank rest).isEmpty then some value else none
  | none => none

def nestingLimit : Nat := 127

def parseNested? (limit : Nat) (source : String) : Option Json :=
  complete (readValue true (fuelFor source.toList) limit source.toList)

def parse? (source : String) : Option Json := parseNested? nestingLimit source

/-- Reads a checked document; if it is an object, its members other than the selected ones are
read unchecked and left out. -/
def parseSelected? (selected : String → Bool) (source : String) : Option Json :=
  let chars := source.toList
  match skipBlank chars with
  | '\x7b' :: rest =>
      match skipBlank rest with
      | '\x7d' :: rest => complete (some (.record [], rest))
      | _ =>
          complete ((readSelected selected (nestingLimit - 1) (fuelFor chars) rest).map
            fun (members, rest) => (.record members, rest))
  | _ => parse? source

end QueryTypes.Json
