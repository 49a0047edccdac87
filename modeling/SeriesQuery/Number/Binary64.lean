/-!
Doubles other than NaN, computed exactly and read from decimals. A finite magnitude is a whole
number of units of 2^-1074, and every result is the exact one rounded to the nearest magnitude, ties
to even.
-/

namespace SeriesQuery

def tenPow (n : Nat) : Nat := Nat.pow 10 n

def digitValue (c : Char) : Nat := c.toNat - '0'.toNat

def ofDigits (digits : List Char) : Nat :=
  digits.foldl (fun value c => 10 * value + digitValue c) 0

/-- A finite magnitude, a mantissa of at most 53 bits shifted by a scale and counted in units, in
its one canonical form. -/
structure Magnitude where
  mantissa : Nat
  scale : Nat
  canonical : mantissa < 0x20000000000000 ∧ (scale = 0 ∨ 0x10000000000000 ≤ mantissa) ∧ scale ≤ 2045
deriving DecidableEq

namespace Magnitude

def units (x : Magnitude) : Nat :=
  x.mantissa <<< x.scale

/-- One, counted in units. -/
def oneUnits : Nat := 1 <<< 1074

def zero : Magnitude := ⟨0, 0, by decide⟩

def largest : Magnitude := ⟨0x1FFFFFFFFFFFFF, 2045, by decide⟩

instance : Inhabited Magnitude := ⟨zero⟩

/-- The whole number nearest to a quotient; a half goes to the even neighbour. -/
def roundDiv (num den : Nat) : Nat :=
  let quotient := num / den
  let twice := 2 * (num % den)
  if den < twice ∨ (twice = den ∧ quotient % 2 = 1) then quotient + 1 else quotient

theorem div_le_roundDiv (num den : Nat) : num / den ≤ roundDiv num den := by
  simp only [roundDiv]
  split <;> omega

theorem roundDiv_mul {den : Nat} (h : 0 < den) (k : Nat) : roundDiv (k * den) den = k := by
  have hm : k * den % den = 0 := Nat.mul_mod_left k den
  have hd : k * den / den = k := Nat.mul_div_cancel k h
  simp only [roundDiv, hm, hd]
  split <;> omega

/-- The scale at which a number of units has a mantissa of 53 bits, or 0 where it has fewer. -/
def scaleOf (units : Nat) : Nat :=
  units.log2 - 52

theorem le_shiftRight_scaleOf {units : Nat} (h : scaleOf units ≠ 0) :
    0x10000000000000 ≤ units >>> scaleOf units := by
  have hu : units ≠ 0 := by rintro rfl; simp [scaleOf] at h
  have hs : 52 + scaleOf units = units.log2 := by simp only [scaleOf] at h ⊢; omega
  have hlog := Nat.log2_self_le hu
  rw [← hs, Nat.pow_add] at hlog
  rw [Nat.shiftRight_eq_div_pow, Nat.le_div_iff_mul_le (Nat.two_pow_pos _)]
  exact hlog

theorem le_roundDiv_scaleOf {num den : Nat} (h : scaleOf (num / den) ≠ 0) :
    0x10000000000000 ≤ roundDiv num (den <<< scaleOf (num / den)) := by
  have hq := le_shiftRight_scaleOf h
  rw [Nat.shiftRight_eq_div_pow, Nat.div_div_eq_div_mul, ← Nat.shiftLeft_eq] at hq
  exact Nat.le_trans hq (div_le_roundDiv _ _)

/-- The magnitude nearest to a quotient counted in units; none beyond the largest. -/
def ofUnits? (num den : Nat) : Option Magnitude :=
  let scale := scaleOf (num / den)
  let mantissa := roundDiv num (den <<< scale)
  if hm : mantissa < 0x20000000000000 then
    if hs : scale ≤ 2045 then
      some ⟨mantissa, scale, hm,
        (Nat.eq_zero_or_pos scale).imp_right fun h => le_roundDiv_scaleOf (by omega), hs⟩
    else none
  else if hs : scale + 1 ≤ 2045 then
    some ⟨0x10000000000000, scale + 1, by decide, .inr (Nat.le_refl _), hs⟩
  else none

/-- The magnitude nearest to a quotient, the largest one for quotients beyond it. -/
def ofRatio (num den : Nat) : Magnitude :=
  (ofUnits? (num * oneUnits) den).getD largest

def whole? (x : Magnitude) : Option Nat :=
  if x.units % oneUnits = 0 then some (x.units / oneUnits) else none

def isZero (x : Magnitude) : Bool :=
  x.mantissa == 0

end Magnitude

/-- A double that is a number or an infinity. -/
inductive Binary64
  | finite (negative : Bool) (magnitude : Magnitude)
  | infinite (negative : Bool)
deriving DecidableEq

namespace Binary64

/-- A quotient counted in units, rounded; beyond the largest magnitude it is infinite. -/
def ofUnits (negative : Bool) (num den : Nat) : Binary64 :=
  match Magnitude.ofUnits? num den with
  | some magnitude => .finite negative magnitude
  | none => .infinite negative

def ofRatio (negative : Bool) (num den : Nat) : Binary64 :=
  ofUnits negative (num * Magnitude.oneUnits) den

def ofInt (i : Int) : Binary64 :=
  ofRatio (decide (i < 0)) i.natAbs 1

def scaleBy (factor : Magnitude) : Binary64 → Binary64
  | .finite negative x => ofUnits negative (x.units * factor.units) Magnitude.oneUnits
  | .infinite negative => .infinite negative

/-- The quotient by a positive divisor. -/
def divideBy (divisor : Magnitude) : Binary64 → Binary64
  | .finite negative x => ofUnits negative (x.units * Magnitude.oneUnits) divisor.units
  | .infinite negative => .infinite negative

def isZero : Binary64 → Bool
  | .finite _ x => x.isZero
  | .infinite _ => false

/-- The 64 bits of the interchange format. -/
def bits (x : Binary64) : Nat :=
  let sign (negative : Bool) := if negative then 1 <<< 63 else 0
  match x with
  | .finite negative x => sign negative + x.scale <<< 52 + x.mantissa
  | .infinite negative => sign negative + 2047 <<< 52

/-- The double nearest to a decimal without sign and exponent: digits, with at most one point
before, among or behind them. -/
def ofDecimal? (cs : List Char) : Option Binary64 :=
  let whole := cs.takeWhile Char.isDigit
  match cs.dropWhile Char.isDigit with
  | [] => if whole.isEmpty then none else some (ofRatio false (ofDigits whole) 1)
  | '.' :: fraction =>
    if !fraction.all Char.isDigit || (whole.isEmpty && fraction.isEmpty) then none
    else some (ofRatio false (ofDigits (whole ++ fraction)) (tenPow fraction.length))
  | _ => none

end Binary64

end SeriesQuery
