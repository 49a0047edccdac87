import Mathlib.Data.List.DropRight
import SeriesQuery.Proofs.Json.IntegerLiteral

/-!
Numbers as they are written. The characters of every number, whole or not, are those of a literal,
and a literal is read back up to the character that ends it.
-/

namespace SeriesQuery

theorem tenPow_pos (n : Nat) : 0 < tenPow n := Nat.pow_pos (by decide)

namespace Magnitude

/-- All numbers that round to a magnitude other than zero are positive. -/
theorem low_neighbourhood_pos {x : Magnitude} (h : x.isZero = false) : 0 < x.neighbourhood.low := by
  have hmantissa : 1 ≤ x.mantissa := by
    rw [Nat.one_le_iff_ne_zero]
    simpa [isZero] using h
  have hpow : 0 < 2 ^ x.scale := Nat.two_pow_pos _
  have hunits : 2 ^ x.scale ≤ x.mantissa * 2 ^ x.scale := Nat.le_mul_of_pos_left _ hmantissa
  simp only [neighbourhood, units, Nat.shiftLeft_eq]
  split <;> omega

theorem not_holds_zero {n : Neighbourhood} {den : Nat} (hlow : 0 < n.low) (hden : 0 < den) :
    n.holds 0 den = false := by
  have hpos : 0 < n.low * den := Nat.mul_pos hlow hden
  unfold Neighbourhood.holds
  split
  · exact decide_eq_false fun h => Nat.not_le_of_lt hpos h.1
  · exact decide_eq_false fun h => Nat.not_lt_zero _ h.1

theorem onGrid_pos {x : Magnitude} (h : x.isZero = false) {power coefficient : Nat}
    (hgrid : onGrid x.neighbourhood power = some coefficient) : 0 < coefficient := by
  rw [Nat.pos_iff_ne_zero]
  rintro rfl
  have hzero : ∀ step, x.neighbourhood.holds (0 * step) (tenPow places) = false := by
    intro step
    rw [Nat.zero_mul]
    exact not_holds_zero (low_neighbourhood_pos h) (tenPow_pos _)
  unfold onGrid at hgrid
  extract_lets step scale below remainder nearer other at hgrid
  split at hgrid
  · next hholds =>
    rw [Option.some.inj hgrid, hzero] at hholds
    cases hholds
  · split at hgrid
    · next hholds =>
      rw [Option.some.inj hgrid, hzero] at hholds
      cases hholds
    · cases hgrid

end Magnitude

end SeriesQuery

namespace SeriesQuery.Json

/-- At least one digit, and nothing else. -/
def IsNumeral (cs : List Char) : Prop :=
  cs ≠ [] ∧ ∀ c ∈ cs, c.isDigit = true

theorem isNumeral_toDigits (n : Nat) : IsNumeral (Nat.toDigits 10 n) :=
  ⟨Nat.toDigits_ne_nil, fun _ => isDigit_of_mem_toDigits⟩

theorem IsNumeral.append {cs ds : List Char} (h : IsNumeral cs)
    (hds : ∀ c ∈ ds, c.isDigit = true) : IsNumeral (cs ++ ds) :=
  ⟨by simp [h.1], fun c hc => (List.mem_append.1 hc).elim (h.2 c) (hds c)⟩

/-- No digit follows. -/
def EndsDigits (rest : List Char) : Prop :=
  ∀ c ∈ rest.head?, c.isDigit = false

/-- Characters that may follow a number within a value. -/
def EndsNumber (rest : List Char) : Prop :=
  ∀ c ∈ rest.head?, c = ',' ∨ c = ']' ∨ c = '}'

theorem endsNumber_nil : EndsNumber [] := fun _ h => by cases h

theorem endsNumber_cons {c : Char} (h : c = ',' ∨ c = ']' ∨ c = '}') (rest : List Char) :
    EndsNumber (c :: rest) := by
  intro d hd
  cases hd
  exact h

theorem EndsNumber.endsDigits {rest : List Char} (h : EndsNumber rest) : EndsDigits rest := by
  intro c hc
  rcases h c hc with rfl | rfl | rfl <;> rfl

theorem endsDigits_cons {c : Char} (h : c.isDigit = false) (rest : List Char) :
    EndsDigits (c :: rest) := by
  intro d hd
  cases hd
  exact h

variable {digits rest : List Char}

theorem span_digits (hdigits : ∀ c ∈ digits, c.isDigit = true) (hrest : EndsDigits rest) :
    (digits ++ rest).takeWhile Char.isDigit = digits ∧
      (digits ++ rest).dropWhile Char.isDigit = rest := by
  have hstops : rest.takeWhile Char.isDigit = [] ∧ rest.dropWhile Char.isDigit = rest := by
    cases rest with
    | nil => exact ⟨rfl, rfl⟩
    | cons c rest => simp [hrest c rfl]
  rw [List.takeWhile_append_of_pos hdigits, List.dropWhile_append_of_pos hdigits, hstops.1,
    hstops.2, List.append_nil]
  exact ⟨rfl, rfl⟩

theorem readDigits_append (hdigits : IsNumeral digits) (hrest : EndsDigits rest) :
    readDigits (digits ++ rest) = some (digits, rest) := by
  obtain ⟨htake, hdrop⟩ := span_digits hdigits.2 hrest
  unfold readDigits
  rw [htake, hdrop]
  cases digits with
  | nil => exact absurd rfl hdigits.1
  | cons c digits => rfl

theorem readWhole_append (hdigits : IsNumeral digits)
    (hzero : digits.head? = some '0' → digits = ['0']) (hrest : EndsDigits rest) :
    readWhole (digits ++ rest) = some (digits, rest) := by
  have hread := readDigits_append hdigits hrest
  unfold readWhole
  split
  · next c tail h =>
    obtain ⟨d, ds, rfl⟩ := List.exists_cons_of_ne_nil hdigits.1
    obtain ⟨rfl, hds⟩ := List.cons.inj h
    cases hzero rfl
    obtain rfl : rest = c :: tail := hds
    rw [hrest c rfl]
    rfl
  · exact hread

namespace Literal

/-- Digits stand wherever they have to, and no zero stands before other whole digits. -/
structure WellFormed (l : Literal) : Prop where
  whole : IsNumeral l.whole
  zero : l.whole.head? = some '0' → l.whole = ['0']
  fraction : ∀ digits ∈ l.fraction, IsNumeral digits
  exponent : ∀ exponent ∈ l.exponent, IsNumeral exponent.2

def fractionChars : Option (List Char) → List Char
  | none => []
  | some digits => '.' :: digits

def exponentChars : Option (Bool × List Char) → List Char
  | none => []
  | some (negative, digits) => 'e' :: (if negative then '-' else '+') :: digits

/-- The literal as it is written, an exponent always with its sign. -/
def chars (l : Literal) : List Char :=
  signed l.negative (l.whole ++ (fractionChars l.fraction ++ exponentChars l.exponent))

theorem readFraction_append {fraction : Option (List Char)}
    (h : ∀ digits ∈ fraction, IsNumeral digits) (hrest : EndsDigits rest)
    (hpoint : rest.head? ≠ some '.') :
    readFraction (fractionChars fraction ++ rest) = some (fraction, rest) := by
  cases fraction with
  | none =>
    cases rest with
    | nil => rfl
    | cons c rest =>
      rw [fractionChars, List.nil_append]
      unfold readFraction
      split
      · next h => exact absurd (congrArg List.head? h) hpoint
      · rfl
  | some digits =>
    have hread := readDigits_append (h digits rfl) hrest
    simp only [fractionChars, List.cons_append, readFraction, hread, Option.map_some]

theorem readExponent_append {exponent : Option (Bool × List Char)}
    (h : ∀ e ∈ exponent, IsNumeral e.2) (hrest : EndsNumber rest) :
    readExponent (exponentChars exponent ++ rest) = some (exponent, rest) := by
  cases exponent with
  | none =>
    cases rest with
    | nil => rfl
    | cons c rest => rcases hrest c rfl with rfl | rfl | rfl <;> rfl
  | some e =>
    obtain ⟨negative, digits⟩ := e
    have hread := readDigits_append (h (negative, digits) rfl) hrest.endsDigits
    cases negative <;>
      simp [exponentChars, readExponent, hread]

/-- What follows the whole digits of a literal begins with another character. -/
theorem endsDigits_exponent (exponent : Option (Bool × List Char)) (hrest : EndsNumber rest) :
    EndsDigits (exponentChars exponent ++ rest) ∧
      (exponentChars exponent ++ rest).head? ≠ some '.' := by
  cases exponent with
  | none =>
    refine ⟨hrest.endsDigits, fun hpoint => ?_⟩
    rcases hrest '.' hpoint with h | h | h <;> cases h
  | some e => exact ⟨endsDigits_cons (by decide) _, by simp [exponentChars]⟩

theorem endsDigits_fraction (fraction : Option (List Char)) (hrest : EndsDigits rest) :
    EndsDigits (fractionChars fraction ++ rest) := by
  cases fraction with
  | none => exact hrest
  | some digits => exact endsDigits_cons (by decide) _

/-- A literal is read back from what is written, up to a character that ends a number. -/
theorem WellFormed.readLiteral {l : Literal} (h : l.WellFormed) (hrest : EndsNumber rest) :
    readLiteral (l.chars ++ rest) = some (l, rest) := by
  obtain ⟨negative, whole, fraction, exponent⟩ := l
  obtain ⟨htail, hpoint⟩ := endsDigits_exponent exponent hrest
  have hwhole := readWhole_append h.whole h.zero (endsDigits_fraction fraction htail)
  have hfraction := readFraction_append h.fraction htail hpoint
  have hexponent := readExponent_append h.exponent hrest
  dsimp only at hwhole hfraction hexponent
  unfold Json.readLiteral chars signed
  cases negative with
  | true => simp [List.append_assoc, hwhole, hfraction, hexponent]
  | false =>
    simp only [Bool.false_eq_true, if_false, List.append_assoc]
    split
    next hminus =>
      -- No digit is a sign.
      obtain ⟨c, cs, rfl⟩ := List.exists_cons_of_ne_nil h.whole.1
      have hdigit := h.whole.2 c List.mem_cons_self
      cases hminus
      cases hdigit
    next => simp [hwhole, hfraction, hexponent]

/-- The characters of a literal. -/
def IsNumberChar (c : Char) : Prop :=
  c.isDigit = true ∨ c ∈ ['-', '+', '.', 'e']

instance : DecidablePred IsNumberChar := fun _ => inferInstanceAs (Decidable (_ ∨ _))

theorem WellFormed.isNumberChar {l : Literal} (h : l.WellFormed) {c : Char} (hc : c ∈ l.chars) :
    IsNumberChar c := by
  have hbody : c = '-' ∨ c ∈ l.whole ∨ c ∈ fractionChars l.fraction ∨
      c ∈ exponentChars l.exponent := by
    unfold chars signed at hc
    split at hc
    · simpa using hc
    · exact .inr (by simpa using hc)
  rcases hbody with rfl | hc | hc | hc
  · exact .inr (by simp)
  · exact .inl (h.whole.2 c hc)
  · cases hfraction : l.fraction with
    | none => simp [hfraction, fractionChars] at hc
    | some digits =>
      rw [hfraction] at hc
      rcases List.mem_cons.1 hc with rfl | hc
      · exact .inr (by simp)
      · exact .inl ((h.fraction digits hfraction).2 c hc)
  · cases hexponent : l.exponent with
    | none => simp [hexponent, exponentChars] at hc
    | some e =>
      obtain ⟨negative, digits⟩ := e
      rw [hexponent, exponentChars] at hc
      rcases List.mem_cons.1 hc with rfl | hc
      · exact .inr (by simp)
      rcases List.mem_cons.1 hc with rfl | hc
      · exact .inr (by cases negative <;> simp)
      · exact .inl ((h.exponent _ hexponent).2 c hc)

theorem WellFormed.exists_chars_eq_cons {l : Literal} (h : l.WellFormed) :
    ∃ c rest, l.chars = c :: rest ∧ (c = '-' ∨ c.isDigit = true) := by
  obtain ⟨c, cs, hcs⟩ := List.exists_cons_of_ne_nil h.whole.1
  unfold chars signed
  split
  · exact ⟨_, _, rfl, .inl rfl⟩
  · exact ⟨c, _, by rw [hcs, List.cons_append], .inr (h.whole.2 c (hcs ▸ List.mem_cons_self))⟩

end Literal

theorem integerLiteral_wellFormed (value : Int) : (integerLiteral value).WellFormed where
  whole := isNumeral_toDigits _
  zero hhead := by
    rcases Nat.eq_zero_or_pos value.natAbs with hvalue | hvalue
    · simp [integerLiteral, hvalue]
    · exact absurd hhead (head?_toDigits_ne_zero hvalue)
  fraction _ h := by cases h
  exponent _ h := by cases h

theorem exists_decimal (negative : Bool) {whole fraction : List Char} (hwhole : IsNumeral whole)
    (hzero : whole.head? = some '0' → whole = ['0']) (hfraction : IsNumeral fraction) :
    ∃ l : Literal, l.WellFormed ∧ signed negative (whole ++ '.' :: fraction) = l.chars := by
  refine ⟨⟨negative, whole, some fraction, none⟩, ⟨hwhole, hzero, ?_, by simp⟩, ?_⟩
  · simpa using hfraction
  · simp [Literal.chars, Literal.fractionChars, Literal.exponentChars]

/-- Digits with a decimal point before, among or behind them are a literal. -/
theorem exists_pointed (negative : Bool) {point : Int} (hdigits : IsNumeral digits)
    (hzero : digits.head? = some '0' → digits = ['0'] ∧ point = 1) :
    ∃ l : Literal, l.WellFormed ∧ signed negative (pointed digits point) = l.chars := by
  have hzeros (n : Nat) : ∀ c ∈ List.replicate n '0', c.isDigit = true := by
    intro c hc
    rw [List.eq_of_mem_replicate hc]
    rfl
  have hnaught : IsNumeral ['0'] := ⟨by simp, by simp⟩
  unfold pointed
  split
  · exact exists_decimal negative hnaught (fun _ => rfl) hdigits
  · next n hn =>
    split
    · refine exists_decimal negative (hdigits.append (hzeros _)) (fun hhead => ?_) hnaught
      rw [List.head?_append_of_ne_nil _ hdigits.1] at hhead
      obtain ⟨rfl, hpoint⟩ := hzero hhead
      cases hpoint
      rfl
    · next hlength =>
      obtain ⟨m, rfl⟩ : ∃ m, n = m + 1 := Nat.exists_eq_succ_of_ne_zero fun h => hn (by rw [h])
      obtain ⟨d, ds, rfl⟩ := List.exists_cons_of_ne_nil hdigits.1
      refine exists_decimal negative ⟨by simp, fun c hc => hdigits.2 c (List.mem_of_mem_take hc)⟩
        (fun hhead => ?_)
        ⟨by simpa using hlength, fun c hc => hdigits.2 c (List.mem_of_mem_drop hc)⟩
      obtain ⟨hdigits, -⟩ := hzero hhead
      rw [hdigits] at hlength
      simp at hlength
  · refine exists_decimal negative hnaught (fun _ => rfl) ⟨by simp, fun c hc => ?_⟩
    exact (List.mem_append.1 hc).elim (hzeros _ c) (hdigits.2 c)

/-- One digit, perhaps others behind a point, and an exponent are a literal. -/
theorem exists_scientific (negative : Bool) (exponent : Int) (hdigits : IsNumeral digits) :
    ∃ l : Literal, l.WellFormed ∧ signed negative (scientific digits exponent) = l.chars := by
  obtain ⟨hne, hdigit⟩ := hdigits
  have hexponent : ∀ e ∈ some (decide (exponent < 0), Nat.toDigits 10 exponent.natAbs),
      IsNumeral e.2 := by
    rintro _ ⟨⟩
    exact isNumeral_toDigits _
  obtain ⟨d, ds, rfl⟩ := List.exists_cons_of_ne_nil hne
  obtain ⟨hd, hds⟩ := List.forall_mem_cons.1 hdigit
  have hwhole : IsNumeral [d] := ⟨by simp, by simpa using hd⟩
  have hzero : [d].head? = some '0' → [d] = ['0'] := by simp
  cases ds with
  | nil =>
    refine ⟨⟨negative, [d], none, some _⟩, ⟨hwhole, hzero, by simp, hexponent⟩, ?_⟩
    simp [scientific, Literal.chars, Literal.fractionChars, Literal.exponentChars]
  | cons e es =>
    refine ⟨⟨negative, [d], some (e :: es), some _⟩, ⟨hwhole, hzero, ?_, hexponent⟩, ?_⟩
    · rintro _ ⟨⟩
      exact ⟨by simp, hds⟩
    · simp [scientific, Literal.chars, Literal.fractionChars, Literal.exponentChars]

/-- Without its trailing zeros a positive number has digits left, of which the first is no zero. -/
theorem isNumeral_dropZeros {n : Nat} (h : 0 < n) :
    IsNumeral ((Nat.toDigits 10 n).reverse.dropWhile (· == '0')).reverse ∧
      ((Nat.toDigits 10 n).reverse.dropWhile (· == '0')).reverse.head? ≠ some '0' := by
  have hfront : (Nat.toDigits 10 n).rdropWhile (· == '0') <+: Nat.toDigits 10 n :=
    List.rdropWhile_prefix _ _
  have hhead := head?_toDigits_ne_zero h
  change IsNumeral ((Nat.toDigits 10 n).rdropWhile (· == '0')) ∧
    ((Nat.toDigits 10 n).rdropWhile (· == '0')).head? ≠ some '0'
  have hne : (Nat.toDigits 10 n).rdropWhile (· == '0') ≠ [] := by
    intro hnil
    rw [List.rdropWhile_eq_nil_iff] at hnil
    obtain ⟨c, cs, hcs⟩ := List.exists_cons_of_ne_nil (Nat.toDigits_ne_nil (n := n) (b := 10))
    have hc := hnil c (hcs ▸ List.mem_cons_self)
    rw [hcs, eq_of_beq hc] at hhead
    exact hhead rfl
  refine ⟨⟨hne, fun c hc => isDigit_of_mem_toDigits (hfront.subset hc)⟩, ?_⟩
  obtain ⟨zeros, hzeros⟩ := hfront
  rwa [← hzeros, List.head?_append_of_ne_nil _ hne] at hhead

/-- The digits of a magnitude, of which the first is a zero only where no grid has a point. -/
theorem isNumeral_shortest {x : Magnitude} (h : x.isZero = false) :
    IsNumeral x.shortest.1 ∧
      (x.shortest.1.head? = some '0' → x.shortest.1 = ['0'] ∧ x.shortest.2 = 1) := by
  unfold Magnitude.shortest
  extract_lets n width found
  cases hfound : found with
  | none => exact ⟨⟨by simp, by simp⟩, fun _ => ⟨rfl, rfl⟩⟩
  | some point =>
    obtain ⟨coefficient, power⟩ := point
    obtain ⟨extra, -, hextra⟩ := List.exists_of_findSome?_eq_some hfound
    obtain ⟨_, hgrid, hpoint⟩ := Option.map_eq_some_iff.1 hextra
    cases hpoint
    obtain ⟨hdigits, hhead⟩ := isNumeral_dropZeros (Magnitude.onGrid_pos h hgrid)
    exact ⟨hdigits, fun hzero => absurd hzero hhead⟩

theorem exists_magnitudeText (negative : Bool) (x : Magnitude) :
    ∃ l : Literal, l.WellFormed ∧ signed negative (magnitudeText x) = l.chars := by
  unfold magnitudeText
  cases hzero : x.isZero with
  | true =>
    have hnaught : IsNumeral ['0'] := ⟨by simp, by simp⟩
    exact exists_decimal negative hnaught (fun _ => rfl) hnaught
  | false =>
    obtain ⟨hdigits, hhead⟩ := isNumeral_shortest hzero
    simp only [Bool.false_eq_true, if_false]
    split
    · exact exists_pointed negative hdigits hhead
    · exact exists_scientific negative _ hdigits

theorem chars_integerLiteral (value : Int)
    (fits : -0x8000000000000000 ≤ value ∧ value < 0x10000000000000000) :
    (Number.integer value fits).chars = (integerLiteral value).chars := by
  simp [Number.chars, integerLiteral, Literal.chars, Literal.fractionChars, Literal.exponentChars]

/-- Every number is written as a literal. -/
theorem Number.exists_literal (n : Number) : ∃ l : Literal, l.WellFormed ∧ n.chars = l.chars := by
  cases n with
  | integer value fits =>
    exact ⟨integerLiteral value, integerLiteral_wellFormed value, chars_integerLiteral value fits⟩
  | real negative magnitude => exact exists_magnitudeText negative magnitude

/-- A number as it is written. -/
def Number.literal (n : Number) : Literal :=
  match readLiteral n.chars with
  | some (literal, _) => literal
  | none => ⟨false, [], none, none⟩

theorem Number.literal_eq {n : Number} {l : Literal} (hl : l.WellFormed) (h : n.chars = l.chars) :
    n.literal = l := by
  have hread := hl.readLiteral endsNumber_nil
  rw [List.append_nil, ← h] at hread
  simp only [Number.literal, hread]

theorem Number.literal_spec (n : Number) : n.literal.WellFormed ∧ n.chars = n.literal.chars := by
  obtain ⟨l, hl, hchars⟩ := n.exists_literal
  rw [Number.literal_eq hl hchars]
  exact ⟨hl, hchars⟩

/-- A number is read as its literal, up to a character that ends a number. -/
theorem Number.readLiteral_chars (n : Number) {rest : List Char} (hrest : EndsNumber rest) :
    readLiteral (n.chars ++ rest) = some (n.literal, rest) := by
  obtain ⟨hliteral, hchars⟩ := n.literal_spec
  rw [hchars]
  exact hliteral.readLiteral hrest

theorem Number.exists_chars_eq_cons (n : Number) :
    ∃ c rest, n.chars = c :: rest ∧ (c = '-' ∨ c.isDigit = true) := by
  obtain ⟨hliteral, hchars⟩ := n.literal_spec
  rw [hchars]
  exact hliteral.exists_chars_eq_cons

theorem literal_integer (value : Int)
    (fits : -0x8000000000000000 ≤ value ∧ value < 0x10000000000000000) :
    (Number.integer value fits).literal = integerLiteral value :=
  Number.literal_eq (integerLiteral_wellFormed value) (chars_integerLiteral value fits)

end SeriesQuery.Json
