import SeriesQuery.Json.Parse

/-! The digits of an integer, which are read as a literal that stands for the integer again. -/

namespace SeriesQuery.Json

theorem le_ofDigitChars (cs : List Char) (value : Nat) : value ≤ Nat.ofDigitChars 10 cs value := by
  induction cs generalizing value with
  | nil => simp
  | cons c cs ih =>
    rw [Nat.ofDigitChars_cons]
    exact Nat.le_trans (by omega) (ih _)

/-- As long as digits fit, all of them are taken. -/
theorem appendDigits_of_le {bound value : Nat} {cs : List Char}
    (h : Nat.ofDigitChars 10 cs value ≤ bound) :
    appendDigits bound value cs = (Nat.ofDigitChars 10 cs value, cs.length) := by
  induction cs generalizing value with
  | nil => rw [appendDigits, Nat.ofDigitChars_nil, List.length_nil]
  | cons c cs ih =>
    rw [Nat.ofDigitChars_cons] at h ⊢
    have hnext := Nat.le_trans (le_ofDigitChars cs _) h
    rw [appendDigits, digitValue, if_pos hnext, ih h]
    rfl

/-- An integer as it is written. -/
def integerLiteral (value : Int) : Literal :=
  ⟨decide (value < 0), Nat.toDigits 10 value.natAbs, none, none⟩

theorem toNumber?_integerLiteral (value : Int)
    (fits : -0x8000000000000000 ≤ value ∧ value < 0x10000000000000000) :
    (integerLiteral value).toNumber? = some (.integer value fits) := by
  have hsignificand : (integerLiteral value).significand = (value.natAbs, 0) := by
    have hdigits : Nat.ofDigitChars 10 (Nat.toDigits 10 value.natAbs) 0 = value.natAbs := by simp
    simp only [Literal.significand, integerLiteral]
    rw [appendDigits_of_le (by omega), hdigits]
    simp
  have hvalue : (if value < 0 then -(value.natAbs : Int) else value.natAbs) = value := by
    split <;> omega
  have hzero : value < 0 → ¬ value = 0 := by omega
  simp only [Literal.toNumber?, hsignificand]
  simp only [integerLiteral, decide_eq_true_eq, hvalue, fits, and_self, Int.natAbs_eq_zero,
    not_and, true_and]
  rw [dif_pos hzero]

theorem isDigit_of_mem_toDigits {n : Nat} {c : Char} (h : c ∈ Nat.toDigits 10 n) :
    c.isDigit = true :=
  Nat.isDigit_of_mem_toDigits (by decide) (by decide) h

/-- A number other than zero does not begin with a zero. -/
theorem head?_toDigits_ne_zero {n : Nat} (h : 0 < n) : (Nat.toDigits 10 n).head? ≠ some '0' := by
  induction n using Nat.strongRecOn with
  | ind n ih =>
    rw [Nat.toDigits_eq_if (by decide)]
    split
    · simp
      omega
    · have hhead := ih (n / 10) (by omega) (by omega)
      obtain ⟨c, cs, hcs⟩ :=
        List.exists_cons_of_ne_nil (Nat.toDigits_ne_nil (n := n / 10) (b := 10))
      rw [hcs] at hhead ⊢
      exact hhead

end SeriesQuery.Json
