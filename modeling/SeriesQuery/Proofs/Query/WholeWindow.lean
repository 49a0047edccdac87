import SeriesQuery.Proofs.Interval.Grammar
import SeriesQuery.Proofs.Number.Rounding
import SeriesQuery.Proofs.Query.PlainRender

/-!
Windows of whole seconds. A whole number of a unit that is a double is read as that double, written
as the integer that it is, and carried by every windowed aggregation of a request.
-/

namespace SeriesQuery

open Json (IsNumeral)

namespace Interval

variable {digits : List Char} {unit : Unit} {n : Nat} {x : Magnitude}

theorem Unit.wholeSeconds?_bounds (h : unit.wholeSeconds? = some n) : 0 < n ∧ n < 2 ^ 53 := by
  cases unit <;> cases h <;> decide

theorem Unit.units_factor (h : unit.wholeSeconds? = some n) :
    unit.factor.units = n * Magnitude.oneUnits := by
  obtain ⟨hpos, hsmall⟩ := wholeSeconds?_bounds h
  obtain ⟨one, hone, honeUnits⟩ := Magnitude.exists_oneUnits_eq
  obtain ⟨y, hy⟩ := Magnitude.exists_units_eq hsmall (show one ≤ 2045 by omega)
  rw [← honeUnits] at hy
  have hfactor : unit.factor = y := by
    simp only [factor, h]
    exact Magnitude.ofRatio_eq hy
  rw [hfactor, hy]

theorem trimmed_digits (hdigits : IsNumeral digits) (unit : Unit) :
    Text.trimmed (digits ++ unit.symbol) = digits ++ unit.symbol := by
  have hsymbol : unit.symbol.all (!Text.isBlank ·) = true := by cases unit <;> rfl
  refine Text.trimmed_eq_self ?_
  intro c hc
  rcases List.mem_append.1 hc with hc | hc
  · exact Text.not_isBlank_of_isDigit (hdigits.2 c hc)
  · simpa using List.all_eq_true.1 hsymbol c hc

/-- A whole number of a unit is read without rounding if the seconds are a double: then so is the
number itself, as one of their factors. -/
theorem seconds_of_digits (hdigits : IsNumeral digits) (hunit : unit.wholeSeconds? = some n)
    (hbound : ofDigits digits * n < 2 ^ 64)
    (hx : x.units = ofDigits digits * n * Magnitude.oneUnits) :
    seconds (.ofList (digits ++ unit.symbol)) = .ok (.finite false x) := by
  have hliteral : IsLiteral (digits ++ unit.symbol) ⟨digits, []⟩ unit := .whole hdigits
  obtain ⟨y, hy⟩ := Magnitude.exists_units_of_mul (Unit.wholeSeconds?_bounds hunit).1 hbound hx
  have hvalue : Amount.value ⟨digits, []⟩ = .finite false y := by
    simp only [Amount.value, List.append_nil]
    exact Binary64.ofRatio_eq hy
  have hread : seconds (.ofList (digits ++ unit.symbol)) =
      .ok ((Amount.value ⟨digits, []⟩).scaleBy unit.factor) := by
    refine seconds_of_isLiteral ?_
    rw [String.toList_ofList, trimmed_digits hdigits]
    exact hliteral
  rw [hread, hvalue, Binary64.scaleBy_eq hy (Unit.units_factor hunit) hx]

end Interval

theorem Part.exists_render_aggregate {part : Part} {kind : Aggregation}
    {defaultTags : Option (List String)}
    (h : part.definition.renderer = .aggregate kind defaultTags) (inner : Option String)
    (interval : Option Binary64) :
    ∃ tags, part.render inner interval = .ok (.aggregator (.single kind tags interval)) := by
  unfold render
  rw [h]
  exact ⟨_, rfl⟩

namespace Query

variable {q : Query} {clause : Part} {rest : List Part} {literal : String} {more : List String}
  {x : Binary64} {m : Metrics} {r : Request}

theorem statedWindow_eq (hclause : q.projection.groupBy = clause :: rest)
    (htype : clause.definition.type = SavedPart.timeType)
    (hparams : clause.params = literal :: more) (hread : Interval.seconds literal = .ok x) :
    q.statedWindow Interval.seconds = .ok (some x) := by
  unfold statedWindow
  rw [hclause]
  simp only [htype, if_true, hparams, hread]
  rfl

/-- A part that is given the stated window stands in the request with it. -/
theorem getElem?_of_statedWindow (hinert : q.context.service = .inert)
    (hwindow : q.statedWindow Interval.seconds = .ok (some x)) (hword : x.IsWord)
    (hrender : (q.render.eval m).1 = .ok r) {i : Nat} {part : Part} {rendered : RenderedPart}
    (hpart : q.firstPipeline[i]? = some part)
    (hrendered : part.render none (some x) = .ok rendered) : r.aggregators[i]? = some rendered := by
  have hwhole : rendered.IsWhole := by
    refine Part.isWhole_of_render ?_ hrendered
    intro y hy
    cases hy
    exact hword
  refine getElem?_of_render hinert hrender hpart ?_ hwhole
  intro interval hinterval
  rw [samplingInterval_inert hinert, hwindow] at hinterval
  cases hinterval
  exact hrendered

/-- Let a number of 64 bits be a whole number of some unit and a double. Then the literal of it is
read as this double, a window of it is the integer, and every windowed aggregation of a request has
the integer for its window, if the literal stands in the leading clause and there are no
variables. -/
theorem render_whole_window {digits : List Char} {unit : Interval.Unit} {u : Nat} {x : Magnitude}
    (hdigits : IsNumeral digits) (hunit : unit.wholeSeconds? = some u)
    (hbound : ofDigits digits * u < 2 ^ 64)
    (hx : x.units = ofDigits digits * u * Magnitude.oneUnits) :
    Interval.seconds (.ofList (digits ++ unit.symbol)) = .ok (.finite false x) ∧
    ∃ fits, Sampling.ofSeconds (some (.finite false x)) =
        ⟨some (.integer (ofDigits digits * u : Nat) fits)⟩ ∧
      ∀ (q : Query) (clause : Part) (rest : List Part) (more : List String) (m : Metrics)
        (r : Request), q.context.service = .inert → q.projection.groupBy = clause :: rest →
        clause.definition.type = SavedPart.timeType →
        clause.params = .ofList (digits ++ unit.symbol) :: more →
        (q.render.eval m).1 = .ok r →
        ∀ (i : Nat) (part : Part) (kind : Aggregation) (defaultTags : Option (List String)),
          q.firstPipeline[i]? = some part →
          part.definition.renderer = .aggregate kind defaultTags → kind.isSampled = true →
          ∃ tags, r.aggregators[i]? = some (.aggregator (.group tags
            [⟨kind, some ⟨some (.integer (ofDigits digits * u : Nat) fits)⟩⟩])) := by
  have hread := Interval.seconds_of_digits hdigits hunit hbound hx
  obtain ⟨fits, hnumber⟩ := Sampling.exists_number?_eq hbound hx
  have hsampling : Sampling.ofSeconds (some (.finite false x)) =
      ⟨some (.integer (ofDigits digits * u : Nat) fits)⟩ := congrArg Sampling.mk hnumber
  refine ⟨hread, fits, hsampling, ?_⟩
  intro q clause rest more m r hinert hclause htype hparams hrender i part kind defaultTags hpart
    hrenderer hsampled
  have hwindow := statedWindow_eq hclause htype hparams hread
  have hword : Binary64.IsWord (.finite false x) := ⟨x, rfl, _, hbound, hx⟩
  obtain ⟨tags, hrendered⟩ :=
    Part.exists_render_aggregate hrenderer none (some (.finite false x))
  refine ⟨tags, ?_⟩
  rw [getElem?_of_statedWindow hinert hwindow hword hrender hpart hrendered, Aggregator.single,
    if_pos hsampled, hsampling]

/-- The greatest double below 2^64, with zeros in front. -/
theorem render_greatest_window :
    let digits := "0018446744073709549568".toList
    let time : Part := .bind (.function "time" [{ name := "interval", type := .time }] ["1m"])
      (.clause "time" (some ["0018446744073709549568s"]))
    let topk : Part := .bind (.filter .top) (.select .filters "topk")
    let average : Part := .bind (.aggregation .average .forEach) (.select .forEach "average")
    let q : Query := ⟨{}, .standard, ⟨.inert, .empty⟩, {}, ⟨[[topk, average]], [time]⟩⟩
    IsNumeral digits ∧ Interval.Unit.seconds.wholeSeconds? = some 1 ∧
    ofDigits digits * 1 = 2 ^ 64 - 2048 ∧
    ∃ x : Magnitude, x.units = ofDigits digits * 1 * Magnitude.oneUnits ∧
      Interval.seconds "0018446744073709549568s" = .ok (.finite false x) ∧
      ∃ r fits tags, (q.render.eval {}).1 = .ok r ∧
        r.aggregators[1]? = some (.aggregator (.group tags
          [⟨.average, some ⟨some (.integer (ofDigits digits * 1 : Nat) fits)⟩⟩])) := by
  intro digits time topk average q
  have hdigits : IsNumeral digits := ⟨by decide, List.all_eq_true.1 rfl⟩
  have hvalue : ofDigits digits * 1 = 2 ^ 64 - 2048 := by decide
  let x : Magnitude := ⟨2 ^ 53 - 1, 1085, by decide⟩
  have hx : x.units = ofDigits digits * 1 * Magnitude.oneUnits := by decide +kernel
  obtain ⟨r, hr⟩ : ∃ r, (q.render.eval {}).1 = .ok r := exists_eq_ok_of_isOk (by decide +kernel)
  have hunit : Interval.Unit.seconds.wholeSeconds? = some 1 := rfl
  obtain ⟨hread, fits, -, hwindow⟩ := render_whole_window hdigits hunit (by omega) hx
  obtain ⟨tags, htags⟩ := hwindow q time [] [] {} r rfl rfl rfl rfl hr 1 average .average none rfl
    rfl rfl
  exact ⟨hdigits, hunit, hvalue, x, hx, hread, r, fits, tags, hr, htags⟩

end Query

end SeriesQuery
