import SeriesQuery.Proofs.Query.PlainRender

/-!
Requests as JSON text. A request is read back from its text if nothing in it is taken for something
else on the way: no comparison for a conjunction, no window for a rounded one, no level for one too
many. Every request that is rendered without variables is of this kind.
-/

namespace SeriesQuery

open Json
open Template.Context (partsJson reader_partsJson depth_partsJson_le)

namespace Request

/-- A request that its text gives back. -/
structure IsReadable (r : Request) : Prop where
  /-- No comparison is written like a conjunction. -/
  operators : "and" ∉ r.filter.operators
  whole : ∀ part ∈ r.aggregators, part.IsWhole
  depth : r.toJson.depth ≤ Reader.levelLimit

variable {r : Request} {levels : Nat}

/-- The request lies one level above its filter, its aggregators and its features. -/
theorem depth_toJson_le_iff : r.toJson.depth ≤ levels + 1 ↔
    r.filter.toJson.depth ≤ levels ∧ (partsJson r.aggregators).depth ≤ levels ∧
      (Json.strings r.features).depth ≤ levels := by
  simp only [toJson, partsJson, Json.depth, fieldDepth]
  omega

theorem reader_ofJson (hand : "and" ∉ r.filter.operators)
    (hwhole : ∀ part ∈ r.aggregators, part.IsWhole) (hdepth : r.toJson.depth ≤ levels) :
    reader levels (.ofJson r.toJson) = .ok r := by
  obtain ⟨inner, rfl⟩ : ∃ inner, levels = inner + 1 := by
    cases levels with
    | zero => exact absurd hdepth (Nat.not_succ_le_zero _)
    | succ inner => exact ⟨inner, rfl⟩
  obtain ⟨hfilter, haggregators, hfeatures⟩ := depth_toJson_le_iff.1 hdepth
  have hfilter : Filter.reader inner (.ofJson r.filter.toJson) = .ok r.filter :=
    Filter.reader_ofJson hfilter hand
  have haggregators : Reader.list RenderedPart.reader inner (.ofJson (partsJson r.aggregators)) =
      .ok r.aggregators :=
    reader_partsJson (fun part hpart => part.toJson_integral (hwhole part hpart)) haggregators
  have hfeatures : Reader.list .string inner (.ofJson (Json.strings r.features)) =
      .ok r.features := by
    obtain ⟨inner, rfl⟩ : ∃ inner', inner = inner' + 1 := by
      cases inner with
      | zero => exact absurd hfeatures (Nat.not_succ_le_zero _)
      | succ inner => exact ⟨inner, rfl⟩
    exact Reader.list_ofJson fun _ _ => rfl
  unfold reader toJson
  exact (Fields.Writes.reader_ofJson (.present hfilter (.present haggregators
    (.present hfeatures (.present rfl .done)))) (by decide) _).trans rfl

theorem IsReadable.run_text (h : r.IsReadable) : reader.run r.toJson.text = .ok r :=
  (Reader.run_text r.toJson reader).trans (reader_ofJson h.operators h.whole h.depth)

end Request

namespace Query

variable {q : Query} {r : Request}

/-- What is rendered without variables has whole windows if the sampling window is whole, and is
far from the limit of levels. -/
theorem isReadable_of_render (hinert : q.context.service = .inert)
    (hword : ∀ x, q.statedWindow Interval.seconds = .ok (some x) → x.IsWord) {m : Metrics}
    (h : (q.render.eval m).1 = .ok r) : r.IsReadable := by
  have hcase := render_inert_first_case hinert hword m
  rw [h] at hcase
  cases hcase with
  | @request interval aggregators hfilter hwindow hpipelines hparts haggregators =>
    have hinterval : ∀ x ∈ interval, x.IsWord := fun x hx => hword x (hx ▸ hwindow)
    have hrendered := mapM_eq_ok_iff.2 haggregators
    have hfilterDepth : (q.plainFilter q.target.tags).toJson.depth ≤ 126 :=
      Nat.le_trans (Filter.depth_ofTags_le _ _) (by decide)
    have haggregatorsDepth : (partsJson aggregators).depth ≤ 126 :=
      Nat.le_trans (depth_partsJson_le (Part.depth_of_mem_rendered hrendered)) (by decide)
    have hfeaturesDepth : (Json.strings q.features).depth ≤ 126 :=
      Nat.le_trans (depth_strings _) (by decide)
    exact
      { operators := mt conflicts_iff.2 hfilter
        whole := Part.isWhole_of_mem_rendered hrendered hinterval
        depth := Request.depth_toJson_le_iff.2
          ⟨hfilterDepth, haggregatorsDepth, hfeaturesDepth⟩ }

end Query

namespace Request

/-- A readable request is read back from its text, whatever filters of series its aggregators are
nested in and whatever its expressions say. A request that is rendered without variables, for whole
seconds or no window, is readable. -/
theorem run_text_exact :
    (∀ r : Request, r.IsReadable → reader.run r.toJson.text = .ok r) ∧
    ∀ (q : Query) (m : Metrics) (r : Request), q.context.service = .inert →
      (∀ x, q.statedWindow Interval.seconds = .ok (some x) → x.IsWord) →
      (q.render.eval m).1 = .ok r → r.IsReadable ∧ reader.run r.toJson.text = .ok r := by
  refine ⟨fun r hr => hr.run_text, fun q m r hinert hword hrender => ?_⟩
  have hr : r.IsReadable := Query.isReadable_of_render hinert hword hrender
  exact ⟨hr, hr.run_text⟩

/-- An aggregation below two filters of series, an expression with the text of an aggregator, and
the request of a query with a sampled aggregation. -/
theorem run_text_nested :
    let grouping : Aggregator :=
      .group none [⟨.average, some ⟨some (.integer 60 (by decide))⟩⟩, ⟨.sum, none⟩]
    let r : Request :=
      { filter := .and [.key "cpu", .not (.compare "=" "host" "a\n")]
        aggregators := [.aggregator (.filter .top 5 (.filter .above (-3) grouping)),
          .expression "\x7b\"type\":\"empty\"\x7d"]
        features := [], range := "$timeFilter" }
    let time : Part :=
      .bind (.function "time" [{ name := "interval", type := .time }] ["1m"])
        (.clause "time" (some ["1m"]))
    let sampled : Part := .bind (.aggregation .average .forEach) (.select .forEach "average")
    let q : Query := ⟨{}, .standard, ⟨.inert, .empty⟩, {}, ⟨[[sampled]], [time]⟩⟩
    (r.IsReadable ∧ reader.run r.toJson.text = .ok r) ∧
      ∃ x rendered, q.statedWindow Interval.seconds = .ok (some x) ∧ x.IsWord ∧
        (q.render.eval {}).1 = .ok rendered ∧
        reader.run rendered.toJson.text = .ok rendered := by
  intro grouping r time sampled q
  obtain ⟨hreads, hrendered⟩ := run_text_exact
  obtain ⟨x, hminute, hword⟩ := Query.exists_seconds_minute
  have hwindow : q.statedWindow Interval.seconds = .ok (some x) :=
    congrArg (Except.map some) hminute
  obtain ⟨rendered, hrender⟩ : ∃ rendered, (q.render.eval {}).1 = .ok rendered :=
    exists_eq_ok_of_isOk (by decide +kernel)
  have hr : r.IsReadable := by
    refine ⟨by decide +kernel, ?_, by decide +kernel⟩
    simp [r, grouping, RenderedPart.IsWhole, Aggregator.IsWhole, Sampling.IsWhole]
  have hword' : ∀ x', q.statedWindow Interval.seconds = .ok (some x') → x'.IsWord := by
    intro x' hx'
    rw [hwindow] at hx'
    cases hx'
    exact hword
  exact ⟨⟨hr, hreads r hr⟩, x, rendered, hwindow, hword, hrender,
    (hrendered q {} rendered rfl hword' hrender).2⟩

end Request

end SeriesQuery
