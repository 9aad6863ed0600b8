import WhereClause.Binary64

/-!
# The shortest decimal that reads back

Every finite `Binary64` other than zero is the nearest one to a whole interval of reals.
`shortest x` is the decimal in that interval with the fewest digits, and among those the one
closest to `x`; two that are equally close go to the larger.

All comparisons are between natural numbers: `Grid` puts the points `d · 10 ^ j` and the
quarter units `n · 2 ^ (scale - 2)` over a common denominator.
-/

set_option autoImplicit false

namespace WhereClause

/-- Decimal digits together with the position of the point: the value
`0.d₁d₂d₃… · 10 ^ point`, where the first digit is not zero unless it is the only one. -/
structure DecimalDigits where
  /-- The digits, most significant first. -/
  digits : List Char
  /-- How many of the digits stand before the point; beyond the ends zeros are understood. -/
  point : Int
deriving DecidableEq

namespace Binary64

/-- A decimal grid of step `10 ^ j` laid over the quarter units of a binary number. -/
structure Grid where
  /-- What a grid point is multiplied by. -/
  step : Nat
  /-- What a number of quarter units is multiplied by. -/
  unit : Nat

/-- The grid of step `10 ^ j` over quarter units of size `2 ^ (q - 2)`. -/
def Grid.of (j q : Int) : Grid where
  step := Nat.pow 10 j.toNat <<< (2 - q).toNat
  unit := Nat.pow 10 (-j).toNat <<< (q - 2).toNat

/-- How far, in quarter units, the lower end of the interval lies below the number: half a unit,
but only a quarter at a power of two, where the numbers below are twice as dense. -/
def lowerGap (x : Binary64) : Nat :=
  if x.significand = block then 1 else 2

/-- Whether the grid point `d` rounds to `x`.  The ends of the interval are halfway between two
numbers, and belong to the one with the even significand. -/
def contains (x : Binary64) (g : Grid) (d : Nat) : Bool :=
  let low := (4 * x.significand - x.lowerGap) * g.unit
  let high := (4 * x.significand + 2) * g.unit
  if x.significand % 2 = 0 then low ≤ d * g.step && d * g.step ≤ high
  else low < d * g.step && d * g.step < high

/-- The number of decimal digits before the point of a finite number other than zero, counted
below one as a negative number of leading zeros. -/
def decimalPoint (x : Binary64) : Int :=
  let g := Grid.of (-400) x.scale
  (Nat.toDigits 10 (4 * x.significand * g.unit / g.step)).length - 400

/-- The better of the two neighbours of `x` on the grid, if one of them rounds to `x`. -/
def gridNeighbour? (x : Binary64) (g : Grid) : Option Nat :=
  let exact := 4 * x.significand * g.unit
  let d := exact / g.step
  match x.contains g d, x.contains g (d + 1) with
  | true, true => some (if 2 * (exact - d * g.step) < g.step then d else d + 1)
  | true, false => some d
  | false, true => some (d + 1)
  | false, false => none

/-- Tries grids of `count` digits and more, up to `fuel` of them. -/
def shortestFrom (x : Binary64) (point : Int) : (count fuel : Nat) → Nat × Int
  | count, 0 => (x.significand, count)
  | count, fuel + 1 =>
    let j := point - count
    match x.gridNeighbour? (Grid.of j x.scale) with
    | some d => (d, j)
    | none => shortestFrom x point (count + 1) fuel

/-- The digits of `d · 10 ^ j` without the zeros at their end. -/
def trimmed (d : Nat) (j : Int) : DecimalDigits :=
  let ds := Nat.toDigits 10 d
  let kept := (ds.reverse.dropWhile (· == '0')).reverse
  ⟨if kept.isEmpty then ['0'] else kept, ds.length + j⟩

/-- The shortest digits of the absolute value of a finite number.  Seventeen digits are enough for
every one of them. -/
def shortest (x : Binary64) : DecimalDigits :=
  if x.rank.val = 0 then ⟨['0'], 1⟩
  else
    let (d, j) := x.shortestFrom x.decimalPoint 1 17
    trimmed d j

end Binary64

end WhereClause
