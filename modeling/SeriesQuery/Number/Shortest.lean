import SeriesQuery.Number.Binary64

/-!
The shortest decimal of a magnitude: the fewest digits that round back to it, and among those the
nearest. Decimals are sought on grids of 1, 2, … 17 significant digits.
-/

namespace SeriesQuery.Magnitude

/-- Decimal places at which every positive magnitude has at least 17 digits before the point. -/
def places : Nat := 340

/-- A magnitude with the numbers that round to it, all in quarters of a unit. -/
structure Neighbourhood where
  low : Nat
  centre : Nat
  high : Nat
  closed : Bool

/-- Half a gap lies on each side; the gap below a power of two is the narrower one. -/
def neighbourhood (x : Magnitude) : Neighbourhood where
  low := 4 * x.units -
    (if x.mantissa = 0x10000000000000 ∧ 0 < x.scale then 1 <<< x.scale else 2 <<< x.scale)
  centre := 4 * x.units
  high := 4 * x.units + 2 <<< x.scale
  closed := x.mantissa % 2 == 0

def Neighbourhood.holds (n : Neighbourhood) (num den : Nat) : Bool :=
  if n.closed then decide (n.low * den ≤ num ∧ num ≤ n.high * den)
  else decide (n.low * den < num ∧ num < n.high * den)

/-- Of the two points of a grid around the centre, the one that rounds to it; if both do, the
nearer, and of two equally near the even one. The grid's step is 10^power, counted from `places`
decimal places on. -/
def onGrid (n : Neighbourhood) (power : Nat) : Option Nat :=
  let step := 4 * oneUnits * tenPow power
  let scale := tenPow places
  let below := n.centre * scale / step
  let remainder := n.centre * scale % step
  let nearer :=
    if 2 * remainder < step ∨ (2 * remainder = step ∧ below % 2 = 0) then below else below + 1
  let other := if nearer = below then below + 1 else below
  if n.holds (nearer * step) scale then some nearer
  else if n.holds (other * step) scale then some other
  else none

/-- The digits of a positive magnitude without trailing zeros, and the place of the decimal point
counted from the first digit. -/
def shortest (x : Magnitude) : List Char × Int :=
  let n := x.neighbourhood
  let width := (Nat.toDigits 10 (x.units * tenPow places / oneUnits)).length
  let found := (List.range 17).findSome? fun extra =>
    (onGrid n (width - 1 - extra)).map fun coefficient => (coefficient, width - 1 - extra)
  match found with
  | some (coefficient, power) =>
    let digits := Nat.toDigits 10 coefficient
    ((digits.reverse.dropWhile (· == '0')).reverse, (digits.length + power : Int) - places)
  | none => (['0'], 1)

end SeriesQuery.Magnitude
