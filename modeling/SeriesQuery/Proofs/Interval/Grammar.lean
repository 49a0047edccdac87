import SeriesQuery.Interval
import SeriesQuery.Proofs.Json.NumberLiteral

/-!
The grammar of interval literals: digits, perhaps a fraction, and a unit right behind them. A text
of the grammar has one amount and one unit, and is read as them; every other text is refused, either
for the variable that it names or for its form.
-/

namespace SeriesQuery.Interval

open Json (IsNumeral EndsDigits span_digits endsDigits_cons)

namespace Unit

def symbol : Unit → List Char
  | milliseconds => ['m', 's']
  | seconds => ['s']
  | minutes => ['m']
  | hours => ['h']
  | days => ['d']
  | weeks => ['w']
  | months => ['M']
  | years => ['y']

theorem ofChars?_symbol (unit : Unit) : ofChars? unit.symbol = some unit := by
  cases unit <;> rfl

theorem ofChars?_eq_some_iff {cs : List Char} {unit : Unit} :
    ofChars? cs = some unit ↔ cs = unit.symbol := by
  constructor
  · intro h
    unfold ofChars? at h
    split at h <;> cases h <;> rfl
  · rintro rfl
    exact ofChars?_symbol unit

theorem endsDigits_symbol (unit : Unit) :
    EndsDigits unit.symbol ∧ unit.symbol.head? ≠ some '.' := by
  cases unit <;> exact ⟨endsDigits_cons rfl _, by decide⟩

end Unit

/-- The double nearest to an amount. -/
def Amount.value (a : Amount) : Binary64 :=
  .ofRatio false (ofDigits (a.whole ++ a.fraction)) (tenPow a.fraction.length)

/-- A text that is an amount with something right behind it. -/
inductive Splits : List Char → Amount → List Char → Prop
  | whole {whole rest : List Char} (h : IsNumeral whole) : Splits (whole ++ rest) ⟨whole, []⟩ rest
  | fractional {whole fraction rest : List Char} (hwhole : IsNumeral whole)
      (hfraction : IsNumeral fraction) :
      Splits (whole ++ '.' :: (fraction ++ rest)) ⟨whole, fraction⟩ rest

/-- A text that is an amount with a unit right behind it. -/
def IsLiteral (cs : List Char) (amount : Amount) (unit : Unit) : Prop :=
  Splits cs amount unit.symbol

/-- A text that begins as a variable does. -/
def BeginsVariable (cs : List Char) : Prop :=
  ['$'] <+: cs ∨ ['[', '['] <+: cs

variable {cs rest : List Char} {amount amount' : Amount} {unit unit' : Unit} {literal : String}

theorem isNumeral_takeWhile (h : cs.takeWhile Char.isDigit ≠ []) :
    IsNumeral (cs.takeWhile Char.isDigit) :=
  ⟨h, fun c hc => List.all_eq_true.1 List.all_takeWhile c hc⟩

/-- What is read as an amount stands at the front of the text. -/
theorem splits_of_amount? (h : amount? cs = some (amount, rest)) : Splits cs amount rest := by
  have hspan : ∀ ds : List Char, ds = ds.takeWhile Char.isDigit ++ ds.dropWhile Char.isDigit :=
    fun ds => List.takeWhile_append_dropWhile.symm
  have hcs := hspan cs
  unfold amount? at h
  split at h
  · cases h
  · next after hdrop hne =>
    have hwhole : IsNumeral (cs.takeWhile Char.isDigit) := isNumeral_takeWhile hne
    rw [hdrop] at hcs
    split at h
    · cases h
      have hsplits : Splits _ _ ('.' :: after) := .whole hwhole
      rwa [← hcs] at hsplits
    · next hne =>
      cases h
      have hsplits : Splits _ _ (after.dropWhile Char.isDigit) :=
        .fractional hwhole (isNumeral_takeWhile hne)
      rwa [← hspan after, ← hcs] at hsplits
  · next hne _ =>
    cases h
    have hsplits : Splits _ _ (cs.dropWhile Char.isDigit) := .whole (isNumeral_takeWhile hne)
    rwa [← hcs] at hsplits

theorem Splits.amount?_eq (h : Splits cs amount rest) (hrest : EndsDigits rest)
    (hpoint : rest.head? ≠ some '.') : amount? cs = some (amount, rest) := by
  cases h with
  | whole hwhole =>
    obtain ⟨htake, hdrop⟩ := span_digits hwhole.2 hrest
    unfold amount?
    rw [htake, hdrop]
    split
    · exact absurd rfl hwhole.1
    · exact absurd rfl hpoint
    · rfl
  | @fractional whole fraction _ hwhole hfraction =>
    have hstops : EndsDigits ('.' :: (fraction ++ rest)) := endsDigits_cons rfl _
    obtain ⟨htake, hdrop⟩ := span_digits hwhole.2 hstops
    obtain ⟨htakeFraction, hdropFraction⟩ := span_digits hfraction.2 hrest
    unfold amount?
    rw [htake, hdrop]
    split
    · exact absurd rfl hwhole.1
    · next after _ hafter =>
      cases hafter
      rw [htakeFraction, hdropFraction]
      split
      · exact absurd rfl hfraction.1
      · rfl
    · next hno => exact absurd rfl (hno _)

/-- The text of an amount is a decimal, of which the double is that of the amount. -/
theorem Splits.ofDecimal?_chars (h : Splits cs amount rest) :
    Binary64.ofDecimal? amount.chars = some amount.value := by
  cases h with
  | @whole whole _ hwhole =>
    have hchars : Amount.chars ⟨whole, []⟩ = whole := rfl
    have hends : EndsDigits [] := fun _ hc => by cases hc
    obtain ⟨htake, hdrop⟩ := span_digits hwhole.2 hends
    rw [List.append_nil] at htake hdrop
    have hempty : whole.isEmpty = false := by simpa using hwhole.1
    simp [hchars, Binary64.ofDecimal?, htake, hdrop, hempty, Amount.value, tenPow]
  | @fractional whole fraction _ hwhole hfraction =>
    have hempty : fraction.isEmpty = false := by simpa using hfraction.1
    have hchars : Amount.chars ⟨whole, fraction⟩ = whole ++ '.' :: fraction := by
      simp [Amount.chars, hempty]
    have hstops : EndsDigits ('.' :: fraction) := endsDigits_cons rfl _
    obtain ⟨htake, hdrop⟩ := span_digits hwhole.2 hstops
    have hall : fraction.all Char.isDigit = true := List.all_eq_true.2 hfraction.2
    simp [hchars, Binary64.ofDecimal?, htake, hdrop, hempty, hall, Amount.value]

theorem namesVariable_iff : namesVariable cs = true ↔ BeginsVariable cs := by
  unfold namesVariable BeginsVariable
  split
  · simp
  · simp
  · next hdollar hbracket =>
    refine iff_of_false (by simp) ?_
    rintro (⟨after, rfl⟩ | ⟨after, rfl⟩)
    · exact hdollar _ rfl
    · exact hbracket _ rfl

namespace IsLiteral

theorem exists_front (h : IsLiteral cs amount unit) :
    ∃ c front, cs = c :: front ++ unit.symbol ∧ c.isDigit = true ∧
      ∀ d ∈ front, d.isDigit = true ∨ d = '.' := by
  cases h with
  | @whole whole _ hwhole =>
    obtain ⟨c, front, rfl⟩ := List.exists_cons_of_ne_nil hwhole.1
    obtain ⟨hc, hfront⟩ := List.forall_mem_cons.1 hwhole.2
    exact ⟨c, front, rfl, hc, fun d hd => .inl (hfront d hd)⟩
  | @fractional whole fraction _ hwhole hfraction =>
    obtain ⟨c, front, rfl⟩ := List.exists_cons_of_ne_nil hwhole.1
    obtain ⟨hc, hfront⟩ := List.forall_mem_cons.1 hwhole.2
    refine ⟨c, front ++ '.' :: fraction, by simp, hc, ?_⟩
    intro d hd
    rcases List.mem_append.1 hd with hd | hd
    · exact .inl (hfront d hd)
    · rcases List.mem_cons.1 hd with rfl | hd
      · exact .inr rfl
      · exact .inl (hfraction.2 d hd)

theorem not_beginsVariable (h : IsLiteral cs amount unit) : ¬ BeginsVariable cs := by
  obtain ⟨c, front, rfl, hc, -⟩ := h.exists_front
  rintro (⟨after, hafter⟩ | ⟨after, hafter⟩) <;>
    obtain ⟨rfl, -⟩ := List.cons.inj hafter <;> cases hc

/-- A text is written with one amount and one unit only. -/
theorem unique (h : IsLiteral cs amount unit) (h' : IsLiteral cs amount' unit') :
    amount = amount' ∧ unit = unit' := by
  obtain ⟨hends, hpoint⟩ := unit.endsDigits_symbol
  obtain ⟨hends', hpoint'⟩ := unit'.endsDigits_symbol
  have hread := Splits.amount?_eq h hends hpoint
  have hread' := Splits.amount?_eq h' hends' hpoint'
  rw [hread, Option.some.injEq, Prod.mk.injEq] at hread'
  obtain ⟨hamount, hsymbol⟩ := hread'
  have hunit := unit.ofChars?_symbol
  rw [hsymbol, unit'.ofChars?_symbol] at hunit
  exact ⟨hamount, (Option.some.inj hunit).symm⟩

theorem eq_milliseconds (h : IsLiteral cs amount unit) (hcs : ['m', 's'] <:+ cs) :
    unit = .milliseconds := by
  obtain ⟨c, front, rfl, hc, hfront⟩ := h.exists_front
  obtain ⟨before, hbefore⟩ := hcs
  have hm : 'm' ∉ c :: front := by
    intro hm
    rcases List.mem_cons.1 hm with rfl | hm
    · cases hc
    · rcases hfront _ hm with hm | hm <;> cases hm
  have hsplit : ∀ d : Char, before ++ ['m', 's'] ≠ c :: front ++ [d] := by
    intro d hd
    have hlast : (before ++ ['m']) ++ ['s'] = c :: front ++ [d] := by
      rw [← hd, List.append_assoc]
      rfl
    obtain ⟨hfront, -⟩ := List.append_inj' hlast rfl
    exact hm (hfront ▸ by simp)
  cases unit with
  | milliseconds => rfl
  | _ => exact absurd hbefore (hsplit _)

end IsLiteral

theorem seconds_of_beginsVariable (h : BeginsVariable (Text.trimmed literal.toList)) :
    seconds literal = .error (.unresolved (.ofList (Text.trimmed literal.toList))) := by
  simp only [seconds, namesVariable_iff.2 h, if_true]

/-- A text of the grammar is read as its amount in its unit. -/
theorem seconds_of_isLiteral (h : IsLiteral (Text.trimmed literal.toList) amount unit) :
    seconds literal = .ok (amount.value.scaleBy unit.factor) := by
  obtain ⟨hends, hpoint⟩ := unit.endsDigits_symbol
  have hname : namesVariable (Text.trimmed literal.toList) = false := by
    simpa using mt namesVariable_iff.1 h.not_beginsVariable
  have hamount := Splits.amount?_eq h hends hpoint
  have hvalue := Splits.ofDecimal?_chars h
  simp only [seconds, hname, hamount, unit.ofChars?_symbol, hvalue, Bool.false_eq_true, if_false]

theorem seconds_of_not_isLiteral (hvariable : ¬ BeginsVariable (Text.trimmed literal.toList))
    (h : ∀ amount unit, ¬ IsLiteral (Text.trimmed literal.toList) amount unit) :
    seconds literal = .error (.malformed literal) := by
  have hname : namesVariable (Text.trimmed literal.toList) = false := by
    simpa using mt namesVariable_iff.1 hvariable
  simp only [seconds, hname, Bool.false_eq_true, if_false]
  cases hamount : amount? (Text.trimmed literal.toList) with
  | none => rfl
  | some front =>
    obtain ⟨amount, rest⟩ := front
    dsimp only
    cases hunit : Unit.ofChars? rest with
    | none => rfl
    | some unit =>
      have hsplits := splits_of_amount? hamount
      rw [Unit.ofChars?_eq_some_iff.1 hunit] at hsplits
      exact absurd hsplits (h amount unit)

/-- The three ways in which a literal is answered. -/
theorem seconds_cases (literal : String) :
    (∃ amount unit, IsLiteral (Text.trimmed literal.toList) amount unit ∧
      seconds literal = .ok (amount.value.scaleBy unit.factor)) ∨
    (BeginsVariable (Text.trimmed literal.toList) ∧
      seconds literal = .error (.unresolved (.ofList (Text.trimmed literal.toList)))) ∨
    ¬ BeginsVariable (Text.trimmed literal.toList) ∧
      (∀ amount unit, ¬ IsLiteral (Text.trimmed literal.toList) amount unit) ∧
      seconds literal = .error (.malformed literal) := by
  by_cases hvariable : BeginsVariable (Text.trimmed literal.toList)
  · exact .inr (.inl ⟨hvariable, seconds_of_beginsVariable hvariable⟩)
  by_cases hliteral : ∃ amount unit, IsLiteral (Text.trimmed literal.toList) amount unit
  · obtain ⟨amount, unit, h⟩ := hliteral
    exact .inl ⟨amount, unit, h, seconds_of_isLiteral h⟩
  · have hno : ∀ amount unit, ¬ IsLiteral (Text.trimmed literal.toList) amount unit := by
      intro amount unit h
      exact hliteral ⟨amount, unit, h⟩
    exact .inr (.inr ⟨hvariable, hno, seconds_of_not_isLiteral hvariable hno⟩)

theorem seconds_eq_ok_iff {x : Binary64} :
    seconds literal = .ok x ↔ ∃ amount unit, IsLiteral (Text.trimmed literal.toList) amount unit ∧
      x = amount.value.scaleBy unit.factor := by
  constructor
  · intro h
    rcases seconds_cases literal with ⟨amount, unit, hliteral, hread⟩ | ⟨-, hread⟩ | ⟨-, -, hread⟩
    · rw [h, Except.ok.injEq] at hread
      exact ⟨amount, unit, hliteral, hread⟩
    · rw [h] at hread
      cases hread
    · rw [h] at hread
      cases hread
  · rintro ⟨amount, unit, hliteral, rfl⟩
    exact seconds_of_isLiteral hliteral

theorem seconds_eq_error_iff {fault : Fault} :
    seconds literal = .error fault ↔
      (BeginsVariable (Text.trimmed literal.toList) ∧
        fault = .unresolved (.ofList (Text.trimmed literal.toList))) ∨
      ¬ BeginsVariable (Text.trimmed literal.toList) ∧
        (∀ amount unit, ¬ IsLiteral (Text.trimmed literal.toList) amount unit) ∧
        fault = .malformed literal := by
  constructor
  · intro h
    rcases seconds_cases literal with
      ⟨_, _, -, hread⟩ | ⟨hvariable, hread⟩ | ⟨hvariable, hno, hread⟩
    · rw [h] at hread
      cases hread
    · rw [h, Except.error.injEq] at hread
      exact .inl ⟨hvariable, hread⟩
    · rw [h, Except.error.injEq] at hread
      exact .inr ⟨hvariable, hno, hread⟩
  · rintro (⟨hvariable, rfl⟩ | ⟨hvariable, hno, rfl⟩)
    · exact seconds_of_beginsVariable hvariable
    · exact seconds_of_not_isLiteral hvariable hno

/-- Without the white space around it, a literal is read exactly if it is a text of the grammar, and
then as its amount times the factor of its unit. It has only one of each, and its unit is not
minutes if it ends in that of milliseconds. Every other literal is refused, for its variable if it
begins as one and else for its form. No amount is unreadable as a number. -/
theorem seconds_exact (literal : String) :
    let text := Text.trimmed literal.toList
    (∀ x, seconds literal = .ok x ↔
      ∃ amount unit, IsLiteral text amount unit ∧ x = amount.value.scaleBy unit.factor) ∧
    (∀ amount unit, IsLiteral text amount unit →
      (∀ amount' unit', IsLiteral text amount' unit' → amount = amount' ∧ unit = unit') ∧
      (['m', 's'] <:+ text → unit = .milliseconds)) ∧
    (∀ fault, seconds literal = .error fault ↔
      (BeginsVariable text ∧ fault = .unresolved (.ofList text)) ∨
      ¬ BeginsVariable text ∧ (∀ amount unit, ¬ IsLiteral text amount unit) ∧
        fault = .malformed literal) ∧
    ∀ unread, seconds literal ≠ .error (.unreadable unread) := by
  intro text
  refine ⟨fun x => seconds_eq_ok_iff, fun amount unit h => ⟨fun _ _ => h.unique, h.eq_milliseconds⟩,
    fun fault => seconds_eq_error_iff, fun unread h => ?_⟩
  rcases seconds_eq_error_iff.1 h with ⟨-, hfault⟩ | ⟨-, -, hfault⟩ <;> cases hfault

theorem seconds_half_milliseconds :
    let amount : Amount := ⟨['0'], ['5', '0']⟩
    IsLiteral (Text.trimmed " 0.50ms ".toList) amount .milliseconds ∧
    seconds " 0.50ms " = .ok (amount.value.scaleBy Unit.milliseconds.factor) ∧
    ∀ amount' unit', IsLiteral (Text.trimmed " 0.50ms ".toList) amount' unit' →
      unit' = .milliseconds := by
  intro amount
  have hliteral : IsLiteral (Text.trimmed " 0.50ms ".toList) amount .milliseconds := by
    have htext : Text.trimmed " 0.50ms ".toList =
        ['0'] ++ '.' :: (['5', '0'] ++ Unit.milliseconds.symbol) := by decide
    rw [htext]
    have hwhole : IsNumeral ['0'] := ⟨by decide, List.all_eq_true.1 rfl⟩
    have hfraction : IsNumeral ['5', '0'] := ⟨by decide, List.all_eq_true.1 rfl⟩
    exact .fractional hwhole hfraction
  obtain ⟨hread, hunique, -, -⟩ := seconds_exact " 0.50ms "
  refine ⟨hliteral, (hread _).2 ⟨amount, .milliseconds, hliteral, rfl⟩, ?_⟩
  intro amount' unit' h
  exact ((hunique _ _ hliteral).1 _ _ h).2.symm

end SeriesQuery.Interval
