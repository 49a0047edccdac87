import SeriesQuery.Proofs.Query.PlainRender

/-!
The number of a part that selects series, from the digits to the request. It is read from the first
parameter exactly if 64 bits hold it, and no reading of JSON changes it.
-/

namespace SeriesQuery

/-- A number that a word of 64 bits with a sign holds. -/
def IsInt64 (value : Int) : Prop :=
  -0x8000000000000000 ≤ value ∧ value < 0x8000000000000000

theorem isInt64_toInt (k : Int64) : IsInt64 k.toInt :=
  ⟨k.le_toInt, k.toInt_lt⟩

theorem exists_toInt_eq {value : Int} (h : IsInt64 value) : ∃ k : Int64, k.toInt = value :=
  ⟨.ofInt value, Int64.toInt_ofInt_of_le h.1 h.2⟩

namespace Part

variable {part : Part} {kind : SeriesFilter} {inner : Option String} {interval : Option Binary64}
  {rendered : RenderedPart}

def numberText (part : Part) : List Char :=
  Text.trimmed (part.params.headD "").toList

theorem lacksNumber_iff (hkind : part.definition.renderer = .filter kind) :
    part.LacksNumber ↔ ∀ value, Denotes part.numberText value → ¬ IsInt64 value := by
  constructor
  · rintro ⟨-, hnone⟩ value hvalue hrange
    obtain ⟨k, rfl⟩ := exists_toInt_eq hrange
    exact hnone k hvalue
  · intro hnone
    exact ⟨⟨kind, hkind⟩, fun k hk => hnone _ hk (isInt64_toInt k)⟩

theorem render_filter_eq_ok_iff (hkind : part.definition.renderer = .filter kind) :
    part.render inner interval = .ok rendered ↔
      ∃ k : Int64, Denotes part.numberText k.toInt ∧
        rendered = .aggregator (.filter kind k .empty) := by
  constructor
  · intro h
    rcases render_cases h with ⟨_, _, _, haggregate, -⟩ | ⟨_, k, hfilter, hk, rfl⟩ | ⟨hfunction, -⟩
    · rw [hkind] at haggregate
      cases haggregate
    · rw [hkind] at hfilter
      cases hfilter
      exact ⟨k, hk, rfl⟩
    · rw [hkind] at hfunction
      cases hfunction
  · rintro ⟨k, hk, rfl⟩
    exact render_of_literal hkind hk inner interval

theorem render_filter_eq_error_iff (hkind : part.definition.renderer = .filter kind) {e : Error} :
    part.render inner interval = .error e ↔
      (∀ value, Denotes part.numberText value → ¬ IsInt64 value) ∧
        e = .invalidParam part.definition.type 0 (part.params.headD "") := by
  rw [← lacksNumber_iff hkind]
  constructor
  · intro h
    have hlacks : part.LacksNumber := by
      by_contra hpresent
      obtain ⟨rendered, hrendered⟩ := exists_render hpresent inner interval
      rw [h] at hrendered
      cases hrendered
    rw [hlacks.render_eq, Except.error.injEq] at h
    exact ⟨hlacks, h.symm⟩
  · rintro ⟨hlacks, rfl⟩
    exact hlacks.render_eq inner interval

end Part

namespace Query

open Template.Context (partsJson)
open SeriesQuery.Part (Denotes)

variable {q : Query} {rendered : RenderedPart}

/-- A part that is read back as it is can be left out of a list and put in again behind the
reading. -/
theorem resolved_around (hinert : q.context.service = .inert) (hwhole : rendered.IsWhole)
    (hdepth : rendered.toJson.depth ≤ 126) (before after : List RenderedPart) :
    q.resolved partsJson (.list RenderedPart.reader) (before ++ rendered :: after) = do
      let front ← q.resolved partsJson (.list RenderedPart.reader) before
      let back ← q.resolved partsJson (.list RenderedPart.reader) after
      return front ++ rendered :: back := by
  have hread := RenderedPart.reader_ofJson (RenderedPart.toJson_integral hwhole) hdepth
  simp only [resolved_parts_eq_mapM hinert, List.mapM_append, List.mapM_cons, hread]
  cases before.mapM fun part => RenderedPart.reader 126 (.ofJson part.toJson) with
  | error refusal => rfl
  | ok front => cases after.mapM fun part => RenderedPart.reader 126 (.ofJson part.toJson) <;> rfl

/-- A part that selects series is rendered exactly if its first parameter, apart from white space
around it, is a literal of a number that 64 bits hold, and then to a filter with this number. Every
other part of this kind is refused by its type and its first parameter. Without variables the filter
is read back as it is, wherever it stands among other parts, and so it stands in the request. -/
theorem render_filter_exact {part : Part} {kind : SeriesFilter}
    (hkind : part.definition.renderer = .filter kind) (inner : Option String)
    (interval : Option Binary64) :
    ((∃ rendered, part.render inner interval = .ok rendered) ↔
      ∃ value, Denotes part.numberText value ∧ IsInt64 value) ∧
    (∀ rendered, part.render inner interval = .ok rendered ↔
      ∃ k : Int64, Denotes part.numberText k.toInt ∧
        rendered = .aggregator (.filter kind k .empty)) ∧
    (∀ e, part.render inner interval = .error e ↔
      (∀ value, Denotes part.numberText value → ¬ IsInt64 value) ∧
        e = .invalidParam part.definition.type 0 (part.params.headD "")) ∧
    ∀ (q : Query) (rendered : RenderedPart), q.context.service = .inert →
      part.render inner interval = .ok rendered →
      (∀ before after, q.resolved partsJson (.list RenderedPart.reader)
          (before ++ rendered :: after) = do
        let front ← q.resolved partsJson (.list RenderedPart.reader) before
        let back ← q.resolved partsJson (.list RenderedPart.reader) after
        return front ++ rendered :: back) ∧
      ∀ (m : Metrics) (r : Request) (i : Nat), (q.render.eval m).1 = .ok r →
        q.firstPipeline[i]? = some part → r.aggregators[i]? = some rendered := by
  refine ⟨?_, fun _ => Part.render_filter_eq_ok_iff hkind,
    fun _ => Part.render_filter_eq_error_iff hkind, ?_⟩
  · constructor
    · rintro ⟨rendered, hrendered⟩
      obtain ⟨k, hk, -⟩ := (Part.render_filter_eq_ok_iff hkind).1 hrendered
      exact ⟨_, hk, isInt64_toInt k⟩
    · rintro ⟨value, hvalue, hrange⟩
      obtain ⟨k, rfl⟩ := exists_toInt_eq hrange
      exact ⟨_, Part.render_of_literal hkind hvalue inner interval⟩
  · intro q rendered hinert hrendered
    obtain ⟨k, hk, rfl⟩ := (Part.render_filter_eq_ok_iff hkind).1 hrendered
    have hwhole : (RenderedPart.aggregator (.filter kind k .empty)).IsWhole := trivial
    have hdepth := Part.depth_of_render hrendered
    refine ⟨resolved_around hinert hwhole (by omega), ?_⟩
    intro m r i hr hpart
    exact getElem?_of_render hinert hr hpart
      (fun interval _ => Part.render_of_literal hkind hk none interval) hwhole

/-- The least number of 64 bits is rendered, the one after the greatest is not. -/
theorem render_bottomk_least :
    let bottomk (k : String) : Part :=
      .bind (.filter .bottom) ⟨"bottomk", some [k, "unread"], .known .filters⟩
    let q : Query :=
      ⟨{}, .standard, ⟨.inert, .empty⟩, {}, ⟨[[bottomk "\t-0009223372036854775808 "]], []⟩⟩
    (∀ k, (bottomk k).definition.renderer = .filter .bottom) ∧
    (∃ r, (q.render.eval {}).1 = .ok r ∧
      r.aggregators[0]? = some (.aggregator (.filter .bottom Int64.minValue .empty))) ∧
    (bottomk "9223372036854775808").render none none =
      .error (.invalidParam "bottomk" 0 "9223372036854775808") := by
  intro bottomk q
  have hleast : Denotes (bottomk "\t-0009223372036854775808 ").numberText Int64.minValue.toInt :=
    Part.int64?_eq_some_iff.1 (by decide)
  have hnone : Part.int64? (bottomk "9223372036854775808").numberText = none := by decide
  obtain ⟨r, hr⟩ : ∃ r, (q.render.eval {}).1 = .ok r := exists_eq_ok_of_isOk (by decide +kernel)
  have hkind : ∀ k, (bottomk k).definition.renderer = .filter .bottom := fun _ => rfl
  obtain ⟨-, hrendered, -, hkept⟩ :=
    render_filter_exact (hkind "\t-0009223372036854775808 ") none none
  obtain ⟨-, -, hrefused, -⟩ := render_filter_exact (hkind "9223372036854775808") none none
  have hnode := (hrendered _).2 ⟨_, hleast, rfl⟩
  refine ⟨hkind, ⟨r, hr, (hkept q _ rfl hnode).2 {} r 0 hr rfl⟩, (hrefused _).2 ⟨?_, rfl⟩⟩
  intro value hvalue hrange
  obtain ⟨k, rfl⟩ := exists_toInt_eq hrange
  cases hnone.symm.trans (Part.int64?_eq_some_iff.2 hvalue)

end Query

end SeriesQuery
