import QueryTypes.Number.Basic

/-!
The fewest decimal digits that read back as a given magnitude.

A decimal grid is the set of multiples of one power of ten. The search goes from the coarsest
grid to finer ones and stops at the first with a point that rounds to the magnitude. Such a
point never ends in the digit zero, since it would lie on the grid before.
-/

set_option autoImplicit false

namespace QueryTypes.Number

/-- The value `digits * 10 ^ exponent`. -/
structure Decimal where
  digits : Nat
  exponent : Int
deriving DecidableEq

/-- Grids are numbered from the finest that any magnitude needs, `10 ^ -324`. -/
def finestGrid : Nat := 324

def gridCode (grid point : Nat) : Nat :=
  nearestCode (point * Nat.pow 10 grid) (Nat.pow 10 finestGrid)

def pointBelow (grid code : Nat) : Nat :=
  units code * Nat.pow 10 finestGrid / (one * Nat.pow 10 grid)

/-- Whether a magnitude is nearer to the point above it than to the point below; an exact half
counts as nearer to the point above. -/
def nearerAbove (grid code : Nat) : Bool :=
  decide ((2 * pointBelow grid code + 1) * (one * Nat.pow 10 grid) ≤
    2 * (units code * Nat.pow 10 finestGrid))

/-- The grid's point that reads back as the magnitude, the nearer one if both neighbours do. -/
def gridPoint? (grid code : Nat) : Option Nat :=
  let below := pointBelow grid code
  let belowReads := gridCode grid below == code
  let aboveReads := gridCode grid (below + 1) == code
  if belowReads && aboveReads then
    some (if nearerAbove grid code then below + 1 else below)
  else if belowReads then some below
  else if aboveReads then some (below + 1)
  else none

/-- The search from one grid downwards, where `point?` gives the point of a grid if it has one. The
finest grid has `last` if no other point is found. -/
def searchFrom (point? : Nat → Option Nat) (last : Nat) : Nat → Decimal
  | 0 => ⟨(point? 0).getD last, -324⟩
  | grid + 1 =>
      match point? (grid + 1) with
      | some point => ⟨point, (grid + 1 : Int) - 324⟩
      | none => searchFrom point? last grid

/-- The shortest decimal of a positive magnitude; no grid coarser than `10 ^ 308` can have one. -/
def shortest (code : Nat) : Decimal :=
  searchFrom (fun grid => gridPoint? grid code) (pointBelow 0 code) 632

end QueryTypes.Number
