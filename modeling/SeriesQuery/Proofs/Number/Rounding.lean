import Mathlib.Data.Nat.Factorization.Basic
import Mathlib.Tactic.Ring
import SeriesQuery.Number.Binary64

/-!
Rounding of numbers that are magnitudes already. They are left as they are, and so are products of
whole numbers that are: a factor of a whole number has no more digits than the number.
-/

namespace SeriesQuery

namespace Magnitude

theorem scaleOf_units (x : Magnitude) : scaleOf x.units = x.scale := by
  obtain ⟨mantissa, scale, hmantissa, hcanonical, -⟩ := x
  simp only [units, Nat.shiftLeft_eq, scaleOf]
  rcases hcanonical with rfl | hnormal
  · rw [Nat.pow_zero, Nat.mul_one]
    by_cases hzero : mantissa = 0
    · simp [hzero]
    · have hlog : mantissa.log2 < 53 := (Nat.log2_lt hzero).2 hmantissa
      omega
  · have hpow : 0 < 2 ^ scale := Nat.two_pow_pos scale
    have hlow : 2 ^ (52 + scale) ≤ mantissa * 2 ^ scale := by
      rw [Nat.pow_add]
      exact Nat.mul_le_mul_right _ hnormal
    have hhigh : mantissa * 2 ^ scale < 2 ^ (52 + scale + 1) := by
      rw [show 52 + scale + 1 = 53 + scale by omega, Nat.pow_add]
      exact Nat.mul_lt_mul_of_pos_right hmantissa hpow
    have hne : mantissa * 2 ^ scale ≠ 0 := by omega
    have hlog : (mantissa * 2 ^ scale).log2 = 52 + scale := (Nat.log2_eq_iff hne).2 ⟨hlow, hhigh⟩
    omega

/-- A quotient that is a number of units of a magnitude is rounded to the magnitude. -/
theorem ofUnits?_units_mul (x : Magnitude) {den : Nat} (h : 0 < den) :
    ofUnits? (x.units * den) den = some x := by
  have hscale : scaleOf (x.units * den / den) = x.scale := by
    rw [Nat.mul_div_cancel _ h, scaleOf_units]
  have hmantissa : roundDiv (x.units * den) (den <<< x.scale) = x.mantissa := by
    have hden : 0 < den <<< x.scale := by
      rw [Nat.shiftLeft_eq]
      exact Nat.mul_pos h (Nat.two_pow_pos _)
    have hnum : x.units * den = x.mantissa * (den <<< x.scale) := by
      simp only [units, Nat.shiftLeft_eq]
      ring
    rw [hnum, roundDiv_mul hden]
  obtain ⟨hlt, -, hle⟩ := x.canonical
  unfold ofUnits?
  simp only [hscale, hmantissa, hlt, hle, dite_true]

theorem ofRatio_eq {x : Magnitude} {n : Nat} (h : x.units = n * oneUnits) : ofRatio n 1 = x := by
  have hround := x.ofUnits?_units_mul Nat.one_pos
  rw [h, Nat.mul_one] at hround
  rw [ofRatio, hround]
  rfl

theorem exists_units_eq {mantissa scale : Nat} (hmantissa : mantissa < 2 ^ 53)
    (hscale : scale ≤ 2045) : ∃ x : Magnitude, x.units = mantissa * 2 ^ scale := by
  induction scale generalizing mantissa with
  | zero => exact ⟨⟨mantissa, 0, hmantissa, .inl rfl, hscale⟩, Nat.shiftLeft_eq _ _⟩
  | succ scale ih =>
    by_cases hnormal : 2 ^ 52 ≤ mantissa
    · exact ⟨⟨mantissa, scale + 1, hmantissa, .inr hnormal, hscale⟩, Nat.shiftLeft_eq _ _⟩
    · -- A short mantissa is shifted until it has 53 bits or the scale is used up.
      obtain ⟨x, hx⟩ := ih (show 2 * mantissa < 2 ^ 53 by omega) (by omega)
      refine ⟨x, hx.trans ?_⟩
      rw [Nat.pow_succ]
      ring

theorem exists_oneUnits_eq : ∃ scale ≤ 1981, oneUnits = 2 ^ scale := by
  refine ⟨1074, by decide, ?_⟩
  unfold oneUnits
  generalize 1074 = scale
  exact Nat.one_shiftLeft scale

/-- An odd divisor of a whole number that is a magnitude has 53 bits at most. -/
theorem lt_of_odd_of_dvd {x : Magnitude} {n d : Nat} (hx : x.units = n * oneUnits) (hn : 0 < n)
    (hodd : Odd d) (hdvd : d ∣ n) : d < 2 ^ 53 := by
  have hunits : x.mantissa * 2 ^ x.scale = n * oneUnits := by rw [← hx, units, Nat.shiftLeft_eq]
  have hpos : 0 < x.mantissa * 2 ^ x.scale := hunits ▸ Nat.mul_pos hn (by decide)
  have hcoprime : Nat.Coprime d (2 ^ x.scale) := (Nat.coprime_two_right.2 hodd).pow_right _
  have hmantissa : d ∣ x.mantissa := by
    refine hcoprime.dvd_of_dvd_mul_right ?_
    rw [hunits]
    exact hdvd.mul_right _
  exact (Nat.le_of_dvd (Nat.pos_of_mul_pos_right hpos) hmantissa).trans_lt x.canonical.1

/-- A factor of a whole number below 2^64 that is a magnitude is a magnitude. -/
theorem exists_units_of_mul {x : Magnitude} {n m : Nat} (hm : 0 < m) (hbound : n * m < 2 ^ 64)
    (hx : x.units = n * m * oneUnits) : ∃ y : Magnitude, y.units = n * oneUnits := by
  rcases Nat.eq_zero_or_pos n with rfl | hn
  · exact ⟨zero, by rw [Nat.zero_mul]; decide⟩
  obtain ⟨scale, odd, hodd, rfl⟩ := Nat.exists_eq_two_pow_mul_odd hn.ne'
  have hdvd : odd ∣ 2 ^ scale * odd * m := (Nat.dvd_mul_left _ _).mul_right _
  have hmantissa : odd < 2 ^ 53 := lt_of_odd_of_dvd hx (Nat.mul_pos hn hm) hodd hdvd
  have hscale : scale < 64 := by
    have hle : 2 ^ scale ≤ 2 ^ scale * odd * m := by
      rw [Nat.mul_assoc]
      exact Nat.le_mul_of_pos_right _ (Nat.mul_pos hodd.pos hm)
    exact (Nat.pow_lt_pow_iff_right (by decide)).1 (hle.trans_lt hbound)
  obtain ⟨one, hone, honeUnits⟩ := exists_oneUnits_eq
  obtain ⟨y, hy⟩ := exists_units_eq hmantissa (show scale + one ≤ 2045 by omega)
  refine ⟨y, ?_⟩
  rw [hy, honeUnits, Nat.pow_add]
  ring

end Magnitude

namespace Binary64

variable {x y z : Magnitude} {n m : Nat} {negative : Bool}

theorem ofRatio_eq (h : x.units = n * Magnitude.oneUnits) :
    ofRatio negative n 1 = .finite negative x := by
  have hround := x.ofUnits?_units_mul Nat.one_pos
  rw [h, Nat.mul_one] at hround
  rw [ofRatio, ofUnits, hround]

/-- The product of whole numbers is not rounded if it is a magnitude. -/
theorem scaleBy_eq (hx : x.units = n * Magnitude.oneUnits) (hy : y.units = m * Magnitude.oneUnits)
    (hz : z.units = n * m * Magnitude.oneUnits) :
    (finite negative x).scaleBy y = .finite negative z := by
  have hone : 0 < Magnitude.oneUnits := by decide
  have hround := z.ofUnits?_units_mul hone
  have hproduct : x.units * y.units = z.units * Magnitude.oneUnits := by
    rw [hx, hy, hz]
    ring
  rw [scaleBy, ofUnits, hproduct, hround]

end Binary64

end SeriesQuery
