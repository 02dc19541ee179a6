/-!
White space of all scripts, and the removal of it and of line breaks around a text.
-/

set_option autoImplicit false

namespace QueryTypes.Text

def isBlank (char : Char) : Bool :=
  let point := char.toNat
  decide (0x9 ≤ point ∧ point ≤ 0xD) || point == 0x20 || point == 0x85 || point == 0xA0 ||
    point == 0x1680 || decide (0x2000 ≤ point ∧ point ≤ 0x200A) || point == 0x2028 ||
    point == 0x2029 || point == 0x202F || point == 0x205F || point == 0x3000

def trimmed (text : List Char) : List Char :=
  ((text.dropWhile isBlank).reverse.dropWhile isBlank).reverse

/-- One line: the breaks are left out and nothing takes their place, then the ends are trimmed. -/
def flatten (text : String) : String :=
  String.ofList (trimmed (text.toList.filter fun char => char != '\n' && char != '\r'))

end QueryTypes.Text
