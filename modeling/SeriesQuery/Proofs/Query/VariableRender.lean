import SeriesQuery.Proofs.Aggregator.Windows
import SeriesQuery.Proofs.Query.PlainRender
import SeriesQuery.Proofs.Target.FirstParam

/-!
Rendering where variables are replaced. The window of a clause is read from what its first parameter
stands for. If insertions are the bodies of strings, the aggregators of a request are those that the
parts are rendered to, with other texts.
-/

namespace SeriesQuery

open Template (bodyWith)
open Json (StringBody)

theorem Scope.isKnown_ofCategory (category : Option Category) : (ofCategory category).IsKnown := by
  cases category <;> trivial

theorem Template.Context.InsertsBodies.stringBody_meaning {context : Context}
    (h : context.InsertsBodies) (text : String) :
    StringBody (bodyWith (context.inserted none) text) (context.meaning text).toList := by
  rw [meaning, String.toList_ofList]
  exact stringBody_bodyWith fun p hp => h.stringBody_meant (isWritten_of_mem_segments hp)

theorem RenderedPart.eq_of_unsized_eq_filter {part : RenderedPart} {kind : SeriesFilter} {k : Int64}
    (h : part.unsized = .aggregator (.filter kind k .empty)) :
    part = .aggregator (.filter kind k .empty) := by
  rcases part with (_ | ⟨_, _, _ | _ | _⟩ | _) | _ <;> cases h
  rfl

namespace Query

open Template.Context (partsJson)

variable {q : Query} {reading : IntervalReading} {parts : List RenderedPart} {clause : Part}
  {rest : List Part} {literal : String} {more : List String}

section

variable (hclause : q.projection.groupBy = clause :: rest)
  (htype : clause.definition.type = SavedPart.timeType) (hparams : clause.params = literal :: more)

include hclause htype hparams

/-- Once the record of the clause is read back, only its first parameter matters. -/
theorem samplingInterval_eq_bind {meant : List Char} (hshipped : q.context.IsShipped)
    (hliteral : StringBody (bodyWith (q.context.inserted none) literal) meant) :
    q.samplingInterval reading =
      q.resolved SavedPart.toJson SavedPart.reader clause.saved >>= fun _ =>
        ((reading (.ofList meant)).map some).mapError .invalidInterval := by
  rw [samplingInterval, hclause]
  dsimp only
  rw [if_pos htype]
  cases hresolved : q.resolved SavedPart.toJson SavedPart.reader clause.saved with
  | error e => rfl
  | ok saved =>
    have hword : Template.IsLiteral clause.definition.type := by
      rw [htype]
      exact Template.isLiteral_of_opensNothing (by decide)
    have hsaved : clause.saved.params = some (literal :: more) := congrArg some hparams
    obtain ⟨others, hothers⟩ := SavedPart.params_of_throughJson hshipped hsaved hword hliteral
      (mapError_eq_ok_iff.1 hresolved)
    simp only [bind, Except.bind, hothers]

theorem samplingInterval_of_insertsBodies (hbodies : q.context.InsertsBodies)
    (reading : IntervalReading) :
    q.samplingInterval reading =
      ((reading (q.context.meaning literal)).map some).mapError .invalidInterval := by
  have hscope : clause.saved.scope.IsKnown := Scope.isKnown_ofCategory _
  have hresolved : q.resolved SavedPart.toJson SavedPart.reader clause.saved =
      .ok (clause.saved.mapText q.context.meaning) := by
    rw [resolved, mapError_eq_ok_iff, Template.Context.throughJson_of_insertsBodies hbodies
      clause.saved.toJson_scannable.spaced,
      SavedPart.mapText_toJson q.context.meaning_fixesWords hscope]
    exact SavedPart.reader_ofJson _ 125
  rw [samplingInterval_eq_bind hclause htype hparams hbodies.shipped
    (hbodies.stringBody_meaning literal), hresolved, String.ofList_toList]
  rfl

end

/-- Variables change the texts of the rendered parts. Only the size of a window can differ besides,
as it is read back from its digits. -/
theorem map_unsized_of_aggregators (hbodies : q.context.InsertsBodies)
    (h : q.aggregators reading = .ok parts) :
    ∃ interval pipeline,
      q.firstPipeline.mapM (fun part => part.render none interval) = .ok pipeline ∧
      parts.map RenderedPart.unsized =
        pipeline.map fun rendered => (rendered.mapText q.context.meaning).unsized := by
  obtain ⟨interval, pipeline, -, -, hpipeline, hparts⟩ := aggregators_eq_ok_iff.1 h
  refine ⟨interval, pipeline, hpipeline, ?_⟩
  have hmapText := Template.Context.mapText_partsJson q.context.meaning_fixesWords pipeline
  rw [resolved, mapError_eq_ok_iff, Template.Context.throughJson_of_insertsBodies hbodies
    (Template.Context.partsJson_spaced pipeline), hmapText] at hparts
  rw [RenderedPart.map_unsized_eq_of_reader hparts, List.map_map]
  rfl

theorem resolved_parts_of_insertsBodies (hbodies : q.context.InsertsBodies)
    (hwhole : ∀ part ∈ parts, part.IsWhole)
    (hdepth : ∀ part ∈ parts, part.toJson.depth ≤ 4) :
    q.resolved partsJson (.list RenderedPart.reader) parts =
      .ok (parts.map (·.mapText q.context.meaning)) := by
  rw [resolved, mapError_eq_ok_iff, Template.Context.throughJson_of_insertsBodies hbodies
    (Template.Context.partsJson_spaced parts)]
  exact Template.Context.reader_mapText_partsJson q.context.meaning_fixesWords hwhole
    (Nat.le_trans (Template.Context.depth_partsJson_le hdepth) (by decide))

/-- The place of a number in the request is the place of its part in the pipeline. -/
theorem filter_of_aggregators (hbodies : q.context.InsertsBodies)
    (h : q.aggregators reading = .ok parts) {i : Nat} {part : Part} {kind : SeriesFilter}
    {k : Int64} (hpart : q.firstPipeline[i]? = some part)
    (hrender : ∀ interval, part.render none interval = .ok (.aggregator (.filter kind k .empty))) :
    parts[i]? = some (.aggregator (.filter kind k .empty)) := by
  obtain ⟨interval, pipeline, hpipeline, hunsized⟩ := map_unsized_of_aggregators hbodies h
  have hplace := congrArg (·[i]?) hunsized
  simp only [List.getElem?_map, getElem?_of_mapM hpipeline hpart (hrender interval),
    Option.map_some, Option.map_eq_some_iff] at hplace
  obtain ⟨aggregator, haggregator, hsame⟩ := hplace
  rw [haggregator, RenderedPart.eq_of_unsized_eq_filter hsame]

end Query

end SeriesQuery
