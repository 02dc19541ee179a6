/-!
Places in a source text: byte ranges, and positions by line and column.
-/

set_option autoImplicit false

namespace QueryTypes.Source

/-- A range of byte offsets, the end not included. -/
structure Loc where
  start : Nat
  stop : Nat
deriving DecidableEq

namespace Loc

def nowhere : Loc := ⟨0, 0⟩

def length (loc : Loc) : Nat := loc.stop - loc.start

def isEmpty (loc : Loc) : Bool := loc.length == 0

def extend (left right : Loc) : Loc := ⟨min left.start right.start, max left.stop right.stop⟩

end Loc

/-- A point of a source: the line counts from one, the column counts bytes from zero. -/
structure Position where
  line : Nat
  column : Nat
  index : Nat
deriving DecidableEq

structure Range where
  start : Position
  stop : Position
deriving DecidableEq

/-- The offsets at which a line break has just ended. A carriage return and the line feed after
it make one break. -/
def breakEnds (offset : Nat) : List Char → List Nat
  | [] => []
  | '\r' :: '\n' :: rest => (offset + 2) :: breakEnds (offset + 2) rest
  | char :: rest =>
      if char = '\n' ∨ char = '\r' then (offset + 1) :: breakEnds (offset + 1) rest
      else breakEnds (offset + char.utf8Size) rest

/-- The starts of a source's lines after the first, ascending. -/
structure LineIndex where
  starts : List Nat
deriving DecidableEq

namespace LineIndex

def ofSource (source : String) : LineIndex := ⟨breakEnds 0 source.toList⟩

def lineCount (index : LineIndex) : Nat := index.starts.length + 1

def startsUpTo (index : LineIndex) (offset : Nat) : List Nat :=
  index.starts.takeWhile fun start => decide (start ≤ offset)

def position (index : LineIndex) (offset : Nat) : Position :=
  let starts := index.startsUpTo offset
  ⟨starts.length + 1, offset - starts.getLastD 0, offset⟩

def range (index : LineIndex) (loc : Loc) : Range :=
  ⟨index.position loc.start, index.position loc.stop⟩

end LineIndex

end QueryTypes.Source
