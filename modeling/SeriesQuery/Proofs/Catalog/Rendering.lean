import SeriesQuery.Catalog.Part
import SeriesQuery.Proofs.Aggregator.Coding

/-!
Parts as they are rendered. A part fails only for a number that it does not have, and what it is
rendered to has the whole windows that it was given, on few levels.
-/

namespace SeriesQuery

/-- A whole number that 64 bits hold. -/
def Binary64.IsWord (x : Binary64) : Prop :=
  ∃ magnitude, x = .finite false magnitude ∧
    ∃ n < 0x10000000000000000, magnitude.units = n * Magnitude.oneUnits

theorem Sampling.exists_number?_eq {x : Magnitude} {n : Nat} (hn : n < 0x10000000000000000)
    (hx : x.units = n * Magnitude.oneUnits) :
    ∃ fits, number? (.finite false x) = some (.integer n fits) := by
  have hone : 0 < Magnitude.oneUnits := by decide
  have hwhole : x.whole? = some n := by
    rw [Magnitude.whole?, hx, if_pos (Nat.mul_mod_left _ _), Nat.mul_div_cancel _ hone]
  have hsmall : ¬ 0x10000000000000000 < n := by omega
  have hmin : min n 0xFFFFFFFFFFFFFFFF = n := by omega
  refine ⟨⟨by omega, by omega⟩, ?_⟩
  simp only [number?, hwhole, Bool.false_and, Bool.false_or, hsmall, decide_false,
    Bool.false_eq_true, if_false, hmin]

theorem Sampling.isWhole_ofSeconds {interval : Option Binary64} (h : ∀ x ∈ interval, x.IsWord) :
    (ofSeconds interval).IsWhole := by
  intro number hnumber
  obtain ⟨x, hx, hnumber⟩ := Option.bind_eq_some_iff.1 hnumber
  obtain ⟨magnitude, rfl, n, hn, hunits⟩ := h x hx
  obtain ⟨fits, hinteger⟩ := exists_number?_eq hn hunits
  rw [hinteger] at hnumber
  exact ⟨n, fits, (Option.some.inj hnumber).symm⟩

namespace Part

def AreDigits (cs : List Char) : Prop :=
  cs ≠ [] ∧ ∀ c ∈ cs, c.isDigit = true

/-- The number that digits stand for, with at most one sign before them. -/
inductive Denotes : List Char → Int → Prop
  | unsigned {digits : List Char} (h : AreDigits digits) : Denotes digits (ofDigits digits)
  | plus {digits : List Char} (h : AreDigits digits) : Denotes ('+' :: digits) (ofDigits digits)
  | minus {digits : List Char} (h : AreDigits digits) : Denotes ('-' :: digits) (-ofDigits digits)

def signed? (negative : Bool) (digits : List Char) : Option Int64 :=
  if digits.isEmpty || !digits.all Char.isDigit then none
  else
    let value : Int := if negative then -ofDigits digits else ofDigits digits
    if -0x8000000000000000 ≤ value ∧ value < 0x8000000000000000 then some (.ofInt value) else none

theorem signed?_eq_some_iff {negative : Bool} {digits : List Char} {k : Int64} :
    signed? negative digits = some k ↔
      AreDigits digits ∧
        k.toInt = if negative then (-ofDigits digits : Int) else ofDigits digits := by
  have hlow := Int64.le_toInt k
  have hhigh := Int64.toInt_lt k
  unfold signed?
  generalize (if negative then -(ofDigits digits : Int) else ofDigits digits) = value
  by_cases hdigits : AreDigits digits
  · have hguard : (digits.isEmpty || !digits.all Char.isDigit) = false := by
      simpa [AreDigits] using hdigits
    simp only [hguard, Bool.false_eq_true, if_false]
    constructor
    · intro h
      split at h
      · next hfits =>
        cases h
        exact ⟨hdigits, Int64.toInt_ofInt_of_le (by omega) (by omega)⟩
      · cases h
    · rintro ⟨-, rfl⟩
      rw [if_pos (by omega), Int64.ofInt_toInt]
  · have hguard : (digits.isEmpty || !digits.all Char.isDigit) = true := by
      simp only [AreDigits, not_and_or, not_not] at hdigits
      rcases hdigits with rfl | hdigits
      · rfl
      · simpa using .inr (by simpa using hdigits)
    simp [hguard, hdigits]

theorem int64?_cons_of_ne {c : Char} {rest : List Char} (hminus : c ≠ '-') (hplus : c ≠ '+') :
    int64? (c :: rest) = signed? false (c :: rest) := by
  unfold int64?
  split
  next hmatch =>
    split at hmatch
    · simp_all
    · simp_all
    · cases hmatch
      rfl

/-- A number of 64 bits is read from exactly the literals that denote it. -/
theorem int64?_eq_some_iff {cs : List Char} {k : Int64} :
    int64? cs = some k ↔ Denotes cs k.toInt := by
  constructor
  · intro h
    rcases cs with _ | ⟨c, rest⟩
    · cases h
    by_cases hminus : c = '-'
    · subst hminus
      obtain ⟨hdigits, hvalue⟩ := signed?_eq_some_iff.1 (h : signed? true rest = some k)
      rw [hvalue]
      exact .minus hdigits
    by_cases hplus : c = '+'
    · subst hplus
      obtain ⟨hdigits, hvalue⟩ := signed?_eq_some_iff.1 (h : signed? false rest = some k)
      rw [hvalue]
      exact .plus hdigits
    · rw [int64?_cons_of_ne hminus hplus] at h
      obtain ⟨hdigits, hvalue⟩ := signed?_eq_some_iff.1 h
      rw [hvalue]
      exact .unsigned hdigits
  · intro h
    generalize hvalue : k.toInt = value at h
    cases h with
    | unsigned h =>
      obtain ⟨c, rest, rfl⟩ := List.exists_cons_of_ne_nil h.1
      -- Digits do not begin with a sign, so that no literal is read in two ways.
      have hc : c.isDigit = true := h.2 c List.mem_cons_self
      have hminus : c ≠ '-' := by rintro rfl; cases hc
      have hplus : c ≠ '+' := by rintro rfl; cases hc
      rw [int64?_cons_of_ne hminus hplus, signed?_eq_some_iff]
      exact ⟨h, hvalue⟩
    | plus h => exact signed?_eq_some_iff.2 ⟨h, hvalue⟩
    | minus h => exact signed?_eq_some_iff.2 ⟨h, hvalue⟩

/-- A part that selects series by a number has another text in the number's place, apart from white
space around it. -/
def LacksNumber (part : Part) : Prop :=
  (∃ kind, part.definition.renderer = .filter kind) ∧
    ∀ k : Int64, ¬ Denotes (Text.trimmed (part.params.headD "").toList) k.toInt

variable {part : Part} {inner : Option String} {interval : Option Binary64}
  {rendered : RenderedPart}

theorem LacksNumber.render_eq (h : part.LacksNumber) (inner : Option String)
    (interval : Option Binary64) :
    part.render inner interval =
      .error (.invalidParam part.definition.type 0 (part.params.headD "")) := by
  obtain ⟨⟨kind, hkind⟩, hnumber⟩ := h
  have hread : int64? (Text.trimmed (part.params.headD "").toList) = none :=
    Option.eq_none_iff_forall_ne_some.2 fun k hk => hnumber k (int64?_eq_some_iff.1 hk)
  simp only [render, hkind, hread]

theorem exists_render (h : ¬ part.LacksNumber) (inner : Option String)
    (interval : Option Binary64) : ∃ rendered, part.render inner interval = .ok rendered := by
  unfold render
  cases hrenderer : part.definition.renderer with
  | aggregate kind defaultTags => exact ⟨_, rfl⟩
  | function => exact ⟨_, rfl⟩
  | filter kind =>
    cases hread : int64? (Text.trimmed (part.params.headD "").toList) with
    | some k => exact ⟨.aggregator (.filter kind k .empty), by simp only [hread]⟩
    | none =>
      refine absurd ⟨⟨kind, hrenderer⟩, fun k hk => ?_⟩ h
      rw [← int64?_eq_some_iff, hread] at hk
      cases hk

theorem render_of_literal {kind : SeriesFilter} {k : Int64}
    (hkind : part.definition.renderer = .filter kind)
    (hk : Denotes (Text.trimmed (part.params.headD "").toList) k.toInt) (inner : Option String)
    (interval : Option Binary64) :
    part.render inner interval = .ok (.aggregator (.filter kind k .empty)) := by
  simp only [render, hkind, int64?_eq_some_iff.2 hk]

open Classical in
theorem exists_first_lacksNumber (parts : List Part) :
    (∃ before part after, parts = before ++ part :: after ∧
      (∀ other ∈ before, ¬ other.LacksNumber) ∧ part.LacksNumber) ∨
      ∀ part ∈ parts, ¬ part.LacksNumber := by
  cases hfirst : parts.find? fun part => part.LacksNumber with
  | some part =>
    obtain ⟨hpart, before, after, hsplit, hbefore⟩ := List.find?_eq_some_iff_append.1 hfirst
    exact .inl ⟨before, part, after, hsplit, by simpa using hbefore, by simpa using hpart⟩
  | none => exact .inr (by simpa using List.find?_eq_none.1 hfirst)

/-- What a part is rendered to, by its renderer. -/
theorem render_cases (h : part.render inner interval = .ok rendered) :
    (∃ kind defaultTags tags, part.definition.renderer = .aggregate kind defaultTags ∧
      rendered = .aggregator (.single kind tags interval)) ∨
    (∃ kind k, part.definition.renderer = .filter kind ∧
      Denotes (Text.trimmed (part.params.headD "").toList) k.toInt ∧
      rendered = .aggregator (.filter kind k .empty)) ∨
    part.definition.renderer = .function ∧ ∃ text, rendered = .expression text := by
  unfold render at h
  cases hrenderer : part.definition.renderer with
  | aggregate kind defaultTags =>
    rw [hrenderer] at h
    cases h
    exact .inl ⟨kind, defaultTags, _, rfl, rfl⟩
  | filter kind =>
    simp only [hrenderer] at h
    split at h <;> cases h
    next k hk => exact .inr (.inl ⟨kind, k, rfl, int64?_eq_some_iff.1 hk, rfl⟩)
  | function =>
    rw [hrenderer] at h
    cases h
    exact .inr (.inr ⟨rfl, _, rfl⟩)

/-- A part that is given a whole window, or none, has no other. -/
theorem isWhole_of_render (hinterval : ∀ x ∈ interval, x.IsWord)
    (h : part.render inner interval = .ok rendered) : rendered.IsWhole := by
  rcases render_cases h with ⟨kind, _, tags, _, rfl⟩ | ⟨kind, k, _, _, rfl⟩ | ⟨_, text, rfl⟩
  · intro a ha s hs
    rw [List.mem_singleton.1 ha, Option.mem_def] at hs
    dsimp only at hs
    split at hs <;> cases hs
    exact Sampling.isWhole_ofSeconds hinterval
  · trivial
  · trivial

theorem depth_of_render (h : part.render inner interval = .ok rendered) :
    rendered.toJson.depth ≤ 4 := by
  rcases render_cases h with ⟨kind, _, tags, _, rfl⟩ | ⟨kind, k, _, _, rfl⟩ | ⟨_, text, rfl⟩
  · exact Aggregator.depth_group_le tags _
  · have hk : (Json.ofInt64 k).depth = 0 := rfl
    simp [RenderedPart.toJson, Aggregator.toJson, Json.depth, Json.fieldDepth, hk]
  · exact Nat.zero_le 4

section

variable {parts : List Part} {aggregators : List RenderedPart}
  (h : parts.mapM (fun part => part.render inner interval) = .ok aggregators)

include h

theorem isWhole_of_mem_rendered (hinterval : ∀ x ∈ interval, x.IsWord) :
    ∀ aggregator ∈ aggregators, aggregator.IsWhole := by
  intro aggregator haggregator
  obtain ⟨part, -, hpart⟩ := exists_rel_of_mem (mapM_eq_ok_iff.1 h) haggregator
  exact isWhole_of_render hinterval hpart

theorem depth_of_mem_rendered : ∀ aggregator ∈ aggregators, aggregator.toJson.depth ≤ 4 := by
  intro aggregator haggregator
  obtain ⟨part, -, hpart⟩ := exists_rel_of_mem (mapM_eq_ok_iff.1 h) haggregator
  exact depth_of_render hpart

end

end Part

end SeriesQuery
