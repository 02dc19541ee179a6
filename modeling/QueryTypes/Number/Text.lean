import QueryTypes.Number.Shortest

/-!
The text of a number where a script turns it into a string, and its reading back.

Integers below `10 ^ 21` are written out exactly, other magnitudes from `10 ^ -6` up to there
with a decimal point, and the rest with an exponent.
-/

set_option autoImplicit false

namespace QueryTypes.Number

def exponentFrom : Nat := nearestCode (Nat.pow 10 21) 1

def exponentBelow : Nat := nearestCode 1 (Nat.pow 10 6)

/-- `d.ddde+21`, where the point stands only before further digits. -/
def Decimal.scientific (decimal : Decimal) : String :=
  let digits := (toString decimal.digits).toList
  let power : Int := decimal.exponent + (digits.length : Int) - 1
  let mantissa := match digits with
    | first :: second :: rest => String.ofList (first :: '.' :: second :: rest)
    | _ => String.ofList digits
  let exponent := if power < 0 then toString power else "+" ++ toString power
  mantissa ++ "e" ++ exponent

def Decimal.positional (decimal : Decimal) : String :=
  let digits := (toString decimal.digits).toList
  let whole : Int := (digits.length : Int) + decimal.exponent
  if 0 < whole then
    String.ofList (digits.take whole.toNat ++ '.' :: digits.drop whole.toNat)
  else
    String.ofList ('0' :: '.' :: (List.replicate (-whole).toNat '0' ++ digits))

def magnitudeText (code : Nat) : String :=
  if exponentFrom ≤ code ∨ code < exponentBelow then (shortest code).scientific
  else if units code % one = 0 then toString (units code / one)
  else (shortest code).positional

/-- The text a number has in a string; the sign of a zero is not written. -/
def text : Number → String
  | .nan => "NaN"
  | .infinite negative => if negative then "-Infinity" else "Infinity"
  | .finite negative code =>
      if code.val = 0 then "0"
      else if negative then "-" ++ magnitudeText code.val else magnitudeText code.val

def decimalLength (value : Nat) : Nat :=
  if value = 0 then 0 else decimalLength (value / 10) + 1
termination_by value
decreasing_by omega

/-- `digits * 10 ^ exponent`, correctly rounded. Values far outside the range are settled by
their size alone, so that no huge power is computed. -/
def ofDecimal (negative : Bool) (digits : Nat) (exponent : Int) : Number :=
  let size : Int := (decimalLength digits : Int) + exponent
  if digits = 0 ∨ size < -400 then ofCode negative 0
  else if 400 < size then .infinite negative
  else if exponent < 0 then ofRatio negative digits (Nat.pow 10 (-exponent).toNat)
  else ofRatio negative (digits * Nat.pow 10 exponent.toNat) 1

def digitValue (digit : Char) : Nat := digit.toNat - '0'.toNat

def digitsValue (before : Nat) (digits : List Char) : Nat :=
  digits.foldl (fun value digit => 10 * value + digitValue digit) before

def readSign : List Char → Bool × List Char
  | '-' :: rest => (true, rest)
  | '+' :: rest => (false, rest)
  | rest => (false, rest)

/-- The decimal exponent at the end of a number's text, absent for zero. -/
def readExponent? : List Char → Option Int
  | [] => some 0
  | mark :: rest =>
      let (negative, digits) := readSign rest
      if (mark == 'e' || mark == 'E') && !digits.isEmpty && digits.all Char.isDigit then
        let value : Int := digitsValue 0 digits
        some (if negative then -value else value)
      else none

/-- The decimal that a text without sign writes: digits, a point with more digits and an
exponent. One digit is enough on either side of the point. -/
def readDecimal? (source : List Char) : Option Decimal :=
  let whole := source.takeWhile Char.isDigit
  let afterWhole := source.dropWhile Char.isDigit
  let fraction := match afterWhole with
    | '.' :: rest => rest.takeWhile Char.isDigit
    | _ => []
  let afterFraction := match afterWhole with
    | '.' :: rest => rest.dropWhile Char.isDigit
    | rest => rest
  if whole.isEmpty && fraction.isEmpty then none
  else (readExponent? afterFraction).map fun exponent =>
    ⟨digitsValue (digitsValue 0 whole) fraction, exponent - fraction.length⟩

/-- Reads a number's text, correctly rounded; a magnitude out of range becomes an infinity. -/
def read? (source : String) : Option Number :=
  let (negative, unsigned) := readSign source.toList
  match String.ofList unsigned with
  | "NaN" => some .nan
  | "Infinity" => some (.infinite negative)
  | _ => (readDecimal? unsigned).map fun decimal =>
      ofDecimal negative decimal.digits decimal.exponent

end QueryTypes.Number
