import SeriesQuery.Proofs.Catalog.Slots
import SeriesQuery.Proofs.Query.VariableRender

/-!
Automatic windows. A function is written with a variable in place of an automatic interval, but the
window of the aggregators is read from the interval as it stands, which is no literal. So a query
with such a window is refused, also where one with the variable is rendered.
-/

namespace SeriesQuery

open Template (bodyWith)
open Json (StringBody)

namespace Query

variable {q : Query} {reading : IntervalReading} {clause : Part} {rest : List Part}
  {more : List String} {filter : Filter} {e : Error}

theorem kind_ne_of_aggregators {interval : Option Binary64}
    (hwindow : q.samplingInterval reading = .ok interval) (h : q.aggregators reading = .error e) :
    e.kind ≠ .invalidInterval := by
  by_cases hpipelines : q.RefusesPipelines
  · rw [aggregators_of_refuses hwindow hpipelines] at h
    cases h
    exact nofun
  rcases Part.exists_first_lacksNumber q.firstPipeline with
    ⟨before, part, after, hfirst, hbefore, hpart⟩ | hparts
  · rw [aggregators_of_lacksNumber hwindow hpipelines hfirst hbefore hpart] at h
    cases h
    exact nofun
  · obtain ⟨rendered, hrendered⟩ := exists_mapM_eq_ok fun part hpart =>
      Part.exists_render (hparts part hpart) none interval
    rw [aggregators_eq_bind hwindow hpipelines, hrendered] at h
    obtain ⟨refusal, -, rfl⟩ := mapError_eq_error_iff.1 h
    exact nofun

theorem requested_of_builtFilter (h : q.builtFilter q.target.tags = .error e) :
    q.requested reading = .error e := by
  rw [requested, h]
  rfl

theorem requested_of_samplingInterval (hfilter : q.builtFilter q.target.tags = .ok filter)
    (h : q.samplingInterval reading = .error e) : q.requested reading = .error e := by
  rw [requested, hfilter, aggregators, h]
  rfl

/-- A request with a filter is refused for an interval exactly if it has no window. -/
theorem kind_eq_invalidInterval_iff (hfilter : q.builtFilter q.target.tags = .ok filter)
    {window : Except Interval.Fault Binary64}
    (hwindow : q.samplingInterval reading = (window.map some).mapError .invalidInterval) :
    (q.requested reading).mapError Error.kind = .error .invalidInterval ↔
      ∃ fault, window = .error fault := by
  cases window with
  | error fault =>
    rw [requested_of_samplingInterval hfilter hwindow]
    exact iff_of_true rfl ⟨fault, rfl⟩
  | ok interval =>
    refine iff_of_false (fun h => ?_) nofun
    obtain ⟨e, he, hkind⟩ := mapError_eq_error_iff.1 h
    rw [requested, hfilter] at he
    cases haggregators : q.aggregators reading with
    | ok parts =>
      rw [haggregators] at he
      cases he
    | error other =>
      rw [haggregators] at he
      cases he
      exact kind_ne_of_aggregators hwindow haggregators hkind

def withClause (q : Query) (index : Nat) (clause : Part) : Query :=
  { q with
    target := { q.target with groupBy := q.target.groupBy.set index clause.saved }
    projection := { q.projection with groupBy := q.projection.groupBy.set index clause } }

/-- No template service of the library makes an interval of the word. -/
theorem exists_requested_automatic (hshipped : q.context.IsShipped)
    (hclause : q.projection.groupBy = clause :: rest)
    (htype : clause.definition.type = SavedPart.timeType) (hauto : clause.params = "auto" :: more) :
    ∃ e, q.requested Interval.seconds = .error e := by
  cases hfilter : q.builtFilter q.target.tags with
  | error e => exact ⟨e, requested_of_builtFilter hfilter⟩
  | ok filter =>
    have hword : StringBody (bodyWith (q.context.inserted none) "auto") "auto".toList :=
      Template.stringBody_bodyWith_of_isLiteral _ (Template.isLiteral_of_opensNothing (by decide))
    have hwindow : q.samplingInterval Interval.seconds = _ :=
      samplingInterval_eq_bind hclause htype hauto hshipped hword
    cases hresolved : q.resolved SavedPart.toJson SavedPart.reader clause.saved with
    | error e =>
      rw [hresolved] at hwindow
      exact ⟨e, requested_of_samplingInterval hfilter hwindow⟩
    | ok saved =>
      rw [hresolved, String.ofList_toList] at hwindow
      exact ⟨_, requested_of_samplingInterval hfilter hwindow⟩

/-- With a service of the library a query with an automatic window is never rendered, whatever the
variables are. So where insertions are bodies of strings, it has the outcome of the query with the
variable, but for the text of the error, only if neither has a filter or the variable stands for no
interval. -/
theorem render_automatic_window (hclause : q.projection.groupBy = clause :: rest)
    (htype : clause.definition.type = SavedPart.timeType) (hauto : clause.params = "auto" :: more) :
    ∃ named, clause.withParam 0 "$__interval" = .ok named ∧
      named.params = "$__interval" :: more ∧
      (q.context.IsShipped → ∀ m, ∃ e, (q.render.eval m).1 = .error e) ∧
      (q.context.InsertsBodies → ∀ m m',
        ((q.render.eval m).1.mapError Error.kind =
            ((q.withClause 0 named).render.eval m').1.mapError Error.kind ↔
          (∃ e, q.builtFilter q.target.tags = .error e) ∨
            ∃ fault, Interval.seconds (q.context.meaning "$__interval") = .error fault)) := by
  obtain ⟨named, hnamed, hdefinition, hparams⟩ :=
    Part.exists_withParam_single (Nat.zero_le clause.params.length)
      (by decide : "$__interval" ≠ "") (by decide)
  rw [hauto] at hparams
  refine ⟨named, hnamed, hparams, fun hshipped m => ?_, fun hbodies m m' => ?_⟩
  · rw [render, gives_renderWith]
    exact exists_requested_automatic hshipped hclause htype hauto
  rw [render, gives_renderWith, render, gives_renderWith]
  cases hfilter : q.builtFilter q.target.tags with
  | error e =>
    have hsame : (q.withClause 0 named).requested Interval.seconds = .error e :=
      requested_of_builtFilter hfilter
    rw [requested_of_builtFilter hfilter, hsame]
    exact iff_of_true rfl (.inl ⟨e, rfl⟩)
  | ok filter =>
    have hword : q.context.meaning "auto" = "auto" := q.context.meaning_fixesWords _ (by decide)
    have hwindow := samplingInterval_of_insertsBodies hclause htype hauto hbodies
    have hrefused := kind_eq_invalidInterval_iff hfilter (hwindow Interval.seconds)
    have hnamedClause : (q.withClause 0 named).projection.groupBy = named :: rest := by
      rw [withClause, hclause, List.set_cons_zero]
    have hnamedWindow :=
      samplingInterval_of_insertsBodies hnamedClause (hdefinition ▸ htype) hparams hbodies
    have hcompared := kind_eq_invalidInterval_iff (q := q.withClause 0 named) hfilter
      (hnamedWindow Interval.seconds)
    rw [hrefused.2 ⟨.malformed "auto", by rw [hword]; rfl⟩, eq_comm, hcompared]
    refine ⟨.inr, fun h => h.resolve_left ?_⟩
    rintro ⟨e, he⟩
    cases he

/-- The variable stands for half a minute, which the query with the variable has as its window. -/
theorem render_automatic_thirty :
    let time : Part := .bind (.function "time" [{ name := "interval", type := .time }] [])
      (.clause "time" (some ["auto"]))
    let context := Template.Context.ofSingle "__interval" "30s"
    let q : Query := ⟨{ groupBy := [time.record] }, .standard, context, {}, ⟨[[]], [time]⟩⟩
    context.meaning "$__interval" = "30s" ∧
    ∃ named, time.withParam 0 "$__interval" = .ok named ∧ (∃ e, (q.render.eval {}).1 = .error e) ∧
      (q.render.eval {}).1.mapError Error.kind ≠
        ((q.withClause 0 named).render.eval {}).1.mapError Error.kind := by
  intro time context q
  have hmeaning : context.meaning "$__interval" = "30s" := by decide +kernel
  have hbodies : context.InsertsBodies :=
    Template.Context.insertsBodies_ofSingle (by decide) (by decide)
  have hfilter : (q.builtFilter q.target.tags).isOk = true := by decide +kernel
  have hseconds : (Interval.seconds "30s").isOk = true := by decide +kernel
  have hclause : q.projection.groupBy = [time] := rfl
  have htype : time.definition.type = SavedPart.timeType := rfl
  have hauto : time.params = ["auto"] := rfl
  obtain ⟨named, hnamed, -, hrefused, hsame⟩ := render_automatic_window hclause htype hauto
  refine ⟨hmeaning, named, hnamed, hrefused trivial {}, fun h => ?_⟩
  rw [hsame hbodies, hmeaning] at h
  obtain ⟨e, he⟩ | ⟨fault, hfault⟩ := h
  · rw [he] at hfilter
    cases hfilter
  · rw [hfault] at hseconds
    cases hseconds

/-- The whole way from a target: with the variable there is a request, with the word there is
none. -/
theorem create_automatic_refused :
    let context := Template.Context.ofSingle "__interval" "30s"
    let rendered (interval : String) : Counted Request :=
      Query.create .standard context {} { groupBy := [.clause "time" (some [interval])] } >>=
        Query.render
    ((rendered "$__interval").eval {}).1.isOk = true ∧
    ((rendered "auto").eval {}).1.isOk = false := by
  decide +kernel

end Query

end SeriesQuery
