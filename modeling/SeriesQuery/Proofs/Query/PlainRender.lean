import SeriesQuery.Proofs.Catalog.Rendering
import SeriesQuery.Proofs.Filter.Tags
import SeriesQuery.Proofs.Query.Coherence
import SeriesQuery.Proofs.Template.Substitution

/-!
Rendering where no variables are replaced. What a request is made of is then read back as it was
written, and the outcome can be told from the target, the settings and the parts.
-/

namespace SeriesQuery.Query

open Template.Context (partsJson reader_partsJson depth_partsJson_le)

variable {q : Query} {reading : IntervalReading} {parts : List RenderedPart} {α : Type}

/-- A record is taken for a conjunction when the filter is read back. -/
def Conflicts (q : Query) : Prop :=
  ∃ tag ∈ q.target.tags, Filter.ComparesByAnd q.settings.defaults.placeholder tag

theorem conflicts_iff : q.Conflicts ↔ "and" ∈ (q.plainFilter q.target.tags).operators :=
  Filter.and_mem_operators_ofTags_iff.symm

/-- The window of a leading `time` clause, by the first of its parameters. -/
def statedWindow (q : Query) (reading : IntervalReading) :
    Except Interval.Fault (Option Binary64) :=
  match q.projection.groupBy with
  | [] => .ok none
  | clause :: _ =>
    if clause.definition.type = SavedPart.timeType then
      match clause.params with
      | [] => .error .absent
      | literal :: _ => (reading literal).map some
    else .ok none

/-- The number of pipelines that have parts. -/
def populated (q : Query) : Nat :=
  (q.projection.select.filter (!·.isEmpty)).length

def RefusesPipelines (q : Query) : Prop :=
  q.settings.rendering.pipelinePolicy = .reject ∧ 1 < q.populated

def firstPipeline (q : Query) : List Part :=
  q.projection.select.headD []

/-- The outcome of a request, by the first of these cases that applies. -/
inductive FirstCase (q : Query) (reading : IntervalReading) : Except Error Request → Prop
  | operator {refusal : Refusal} (hfilter : q.Conflicts) :
      FirstCase q reading (.error (.serialization refusal))
  | window {fault : Interval.Fault} (hfilter : ¬ q.Conflicts)
      (hwindow : q.statedWindow reading = .error fault) :
      FirstCase q reading (.error (.invalidInterval fault))
  | pipelines {interval : Option Binary64} (hfilter : ¬ q.Conflicts)
      (hwindow : q.statedWindow reading = .ok interval) (hpipelines : q.RefusesPipelines) :
      FirstCase q reading (.error (.severalPipelines q.populated))
  | param {interval : Option Binary64} {before after : List Part} {part : Part}
      (hfilter : ¬ q.Conflicts) (hwindow : q.statedWindow reading = .ok interval)
      (hpipelines : ¬ q.RefusesPipelines) (hfirst : q.firstPipeline = before ++ part :: after)
      (hbefore : ∀ other ∈ before, ¬ other.LacksNumber) (hpart : part.LacksNumber) :
      FirstCase q reading
        (.error (.invalidParam part.definition.type 0 (part.params.headD "")))
  | request {interval : Option Binary64} {aggregators : List RenderedPart}
      (hfilter : ¬ q.Conflicts) (hwindow : q.statedWindow reading = .ok interval)
      (hpipelines : ¬ q.RefusesPipelines) (hparts : ∀ part ∈ q.firstPipeline, ¬ part.LacksNumber)
      (haggregators : List.Forall₂
        (fun part aggregator => part.render none interval = .ok aggregator)
        q.firstPipeline aggregators) :
      FirstCase q reading (.ok ⟨q.plainFilter q.target.tags, aggregators, q.features,
        q.settings.rendering.rangePlaceholder⟩)

section

variable (hinert : q.context.service = .inert)

include hinert

theorem resolved_inert (encode : α → Json) (reader : Json.Reader α) (value : α) :
    q.resolved encode reader value =
      (reader Json.Reader.levelLimit (.ofJson (encode value))).mapError .serialization := by
  have hreplace : q.context.replace none (encode value).text = (encode value).text := by
    simp only [Template.Context.replace, hinert]
  rw [resolved, Template.Context.throughJson, hreplace, Json.Reader.run_text]

theorem builtFilter_inert (tags : List Tag) :
    q.builtFilter tags = (Filter.ofJson (q.plainFilter tags).toJson).mapError .serialization := by
  have hdepth := Filter.depth_ofTags_le q.settings.defaults.placeholder tags
  rw [builtFilter, resolved_inert hinert,
    Filter.reader_ofJson_eq]
  exact Nat.le_trans hdepth (by decide)

theorem builtFilter_of_conflicts (h : q.Conflicts) :
    ∃ refusal, q.builtFilter q.target.tags = .error (.serialization refusal) := by
  obtain ⟨refusal, hrefusal⟩ := Filter.exists_refusal_of_mem_operators (conflicts_iff.1 h)
  refine ⟨refusal, ?_⟩
  rw [builtFilter_inert hinert, hrefusal]
  rfl

theorem builtFilter_of_not_conflicts (h : ¬ q.Conflicts) :
    q.builtFilter q.target.tags = .ok (q.plainFilter q.target.tags) := by
  rw [builtFilter_inert hinert, Filter.ofJson_toJson _ (mt conflicts_iff.2 h)]
  rfl

theorem samplingInterval_inert :
    q.samplingInterval reading = (q.statedWindow reading).mapError .invalidInterval := by
  unfold samplingInterval statedWindow
  cases q.projection.groupBy with
  | nil => rfl
  | cons clause rest =>
    dsimp only
    split
    · have hsaved : q.resolved SavedPart.toJson SavedPart.reader clause.saved =
          .ok clause.saved := by
        rw [resolved_inert hinert]
        exact congrArg (Except.mapError Error.serialization) (clause.saved.reader_ofJson 125)
      rw [hsaved]
      cases hparams : clause.params with
      | nil => simp only [Part.saved, hparams]; rfl
      | cons literal rest => simp only [Part.saved, hparams]; rfl
    · rfl

theorem resolved_parts_eq_mapM (parts : List RenderedPart) :
    q.resolved partsJson (.list RenderedPart.reader) parts =
      (parts.mapM fun part => RenderedPart.reader 126 (.ofJson part.toJson)).mapError
        .serialization := by
  rw [resolved_inert hinert]
  have hlist : Json.Reader.list RenderedPart.reader Json.Reader.levelLimit
      (.ofJson (partsJson parts)) =
      (Json.Document.ofItems (parts.map RenderedPart.toJson)).mapM (RenderedPart.reader 126) := rfl
  rw [hlist, Json.Document.ofItems_eq_map, List.map_map, List.mapM_map]
  rfl

theorem resolved_parts_inert (hwhole : ∀ part ∈ parts, part.IsWhole)
    (hdepth : ∀ part ∈ parts, part.toJson.depth ≤ 4) :
    q.resolved partsJson (.list RenderedPart.reader) parts = .ok parts := by
  have hlevels : (partsJson parts).depth ≤ Json.Reader.levelLimit :=
    Nat.le_trans (depth_partsJson_le hdepth) (by decide)
  rw [resolved_inert hinert, reader_partsJson _ hlevels]
  · rfl
  · exact fun part hpart => RenderedPart.toJson_integral (hwhole part hpart)

end

theorem renderedPipeline_of_refuses (h : q.RefusesPipelines) :
    q.renderedPipeline = .error (.severalPipelines q.populated) := by
  obtain ⟨hpolicy, hmany⟩ := h
  unfold renderedPipeline
  rw [hpolicy]
  exact if_pos hmany

theorem renderedPipeline_of_not_refuses (h : ¬ q.RefusesPipelines) :
    q.renderedPipeline = .ok q.firstPipeline := by
  unfold renderedPipeline
  cases hpolicy : q.settings.rendering.pipelinePolicy with
  | first => rfl
  | reject => exact if_neg fun hmany => h ⟨hpolicy, hmany⟩

section

variable {interval : Option Binary64} (hwindow : q.samplingInterval reading = .ok interval)

include hwindow

theorem aggregators_of_refuses (hpipelines : q.RefusesPipelines) :
    q.aggregators reading = .error (.severalPipelines q.populated) := by
  rw [aggregators, hwindow, renderedPipeline_of_refuses hpipelines]
  rfl

variable (hpipelines : ¬ q.RefusesPipelines)

include hpipelines

theorem aggregators_eq_bind :
    q.aggregators reading = (q.firstPipeline.mapM fun part => part.render none interval) >>=
      q.resolved partsJson (.list RenderedPart.reader) := by
  rw [aggregators, hwindow, renderedPipeline_of_not_refuses hpipelines]
  rfl

theorem aggregators_of_lacksNumber {before after : List Part} {part : Part}
    (hfirst : q.firstPipeline = before ++ part :: after)
    (hbefore : ∀ other ∈ before, ¬ other.LacksNumber) (hpart : part.LacksNumber) :
    q.aggregators reading =
      .error (.invalidParam part.definition.type 0 (part.params.headD "")) := by
  have hrendered : (before ++ part :: after).mapM (fun part => part.render none interval) =
      .error (.invalidParam part.definition.type 0 (part.params.headD "")) :=
    mapM_eq_error (fun other hother => Part.exists_render (hbefore other hother) none interval)
      (hpart.render_eq none interval)
  rw [aggregators_eq_bind hwindow hpipelines, hfirst, hrendered]
  rfl

theorem exists_aggregators (hinert : q.context.service = .inert)
    (hword : ∀ x ∈ interval, x.IsWord) (hparts : ∀ part ∈ q.firstPipeline, ¬ part.LacksNumber) :
    ∃ aggregators, q.aggregators reading = .ok aggregators ∧
      List.Forall₂ (fun part aggregator => part.render none interval = .ok aggregator)
        q.firstPipeline aggregators := by
  obtain ⟨rendered, hrendered⟩ := exists_mapM_eq_ok fun part hpart =>
    Part.exists_render (hparts part hpart) none interval
  have hresolved : q.resolved partsJson (.list RenderedPart.reader) rendered = .ok rendered :=
    resolved_parts_inert hinert (Part.isWhole_of_mem_rendered hrendered hword)
      (Part.depth_of_mem_rendered hrendered)
  refine ⟨rendered, ?_, mapM_eq_ok_iff.1 hrendered⟩
  rw [aggregators_eq_bind hwindow hpipelines, hrendered]
  exact hresolved

end

/-- What has to succeed for the aggregators of a query, in this order. -/
theorem aggregators_eq_ok_iff :
    q.aggregators reading = .ok parts ↔ ∃ interval pipeline,
      q.samplingInterval reading = .ok interval ∧ ¬ q.RefusesPipelines ∧
      q.firstPipeline.mapM (fun part => part.render none interval) = .ok pipeline ∧
      q.resolved partsJson (.list RenderedPart.reader) pipeline = .ok parts := by
  constructor
  · intro h
    cases hwindow : q.samplingInterval reading with
    | error e =>
      rw [aggregators, hwindow] at h
      cases h
    | ok interval =>
      by_cases hpipelines : q.RefusesPipelines
      · rw [aggregators_of_refuses hwindow hpipelines] at h
        cases h
      · rw [aggregators_eq_bind hwindow hpipelines, bind_eq_ok_iff] at h
        obtain ⟨pipeline, hpipeline, hparts⟩ := h
        exact ⟨interval, pipeline, rfl, hpipelines, hpipeline, hparts⟩
  · rintro ⟨interval, pipeline, hwindow, hpipelines, hpipeline, hparts⟩
    rw [aggregators_eq_bind hwindow hpipelines, bind_eq_ok_iff]
    exact ⟨pipeline, hpipeline, hparts⟩

theorem aggregators_of_requested {r : Request} (h : q.requested reading = .ok r) :
    q.aggregators reading = .ok r.aggregators := by
  obtain ⟨_, -, h⟩ := bind_eq_ok_iff.1 h
  obtain ⟨parts, haggregators, h⟩ := bind_eq_ok_iff.1 h
  cases h
  exact haggregators

/-- What a part is rendered to stands in the request in its place, if its window is whole. -/
theorem getElem?_of_render {m : Metrics} {r : Request} {i : Nat} {part : Part}
    {rendered : RenderedPart} (hinert : q.context.service = .inert)
    (hr : (q.render.eval m).1 = .ok r) (hpart : q.firstPipeline[i]? = some part)
    (hrender : ∀ interval, q.samplingInterval Interval.seconds = .ok interval →
      part.render none interval = .ok rendered) (hwhole : rendered.IsWhole) :
    r.aggregators[i]? = some rendered := by
  rw [render, gives_renderWith] at hr
  obtain ⟨interval, pipeline, hwindow, -, hpipeline, hparts⟩ :=
    aggregators_eq_ok_iff.1 (aggregators_of_requested hr)
  have hrendered := hrender interval hwindow
  have hplace : pipeline[i]? = some rendered := getElem?_of_mapM hpipeline hpart hrendered
  have hdepth := Part.depth_of_render hrendered
  rw [resolved_parts_eq_mapM hinert, mapError_eq_ok_iff] at hparts
  refine getElem?_of_mapM hparts hplace ?_
  exact RenderedPart.reader_ofJson (RenderedPart.toJson_integral hwhole) (by omega)

/-- Without variables the first case that applies decides the outcome of a request. -/
theorem requested_inert (hinert : q.context.service = .inert)
    (hword : ∀ x, q.statedWindow reading = .ok (some x) → x.IsWord) :
    q.FirstCase reading (q.requested reading) := by
  have hinterval : q.samplingInterval reading =
      (q.statedWindow reading).mapError .invalidInterval := samplingInterval_inert hinert
  by_cases hfilter : q.Conflicts
  · obtain ⟨refusal, hbuilt⟩ := builtFilter_of_conflicts hinert hfilter
    rw [requested, hbuilt]
    exact .operator hfilter
  rw [requested, builtFilter_of_not_conflicts hinert hfilter]
  -- The cases are split in the order in which the request meets their faults.
  cases hwindow : q.statedWindow reading with
  | error fault =>
    rw [hwindow] at hinterval
    rw [aggregators, hinterval]
    exact .window hfilter hwindow
  | ok interval =>
    rw [hwindow] at hinterval
    by_cases hpipelines : q.RefusesPipelines
    · rw [aggregators_of_refuses hinterval hpipelines]
      exact .pipelines hfilter hwindow hpipelines
    rcases Part.exists_first_lacksNumber q.firstPipeline with
      ⟨before, part, after, hfirst, hbefore, hpart⟩ | hparts
    · rw [aggregators_of_lacksNumber hinterval hpipelines hfirst hbefore hpart]
      exact .param hfilter hwindow hpipelines hfirst hbefore hpart
    · obtain ⟨rendered, hrendered, hforall⟩ := exists_aggregators hinterval hpipelines hinert
        (fun x hx => hword x (hx ▸ hwindow)) hparts
      rw [hrendered]
      exact .request hfilter hwindow hpipelines hparts hforall

/-- Without variables, and with a window of whole seconds or none, the first case that applies
decides what a query is rendered to. -/
theorem render_inert_first_case (hinert : q.context.service = .inert)
    (hword : ∀ x, q.statedWindow Interval.seconds = .ok (some x) → x.IsWord) (m : Metrics) :
    q.FirstCase Interval.seconds (q.render.eval m).1 := by
  rw [render, gives_renderWith]
  exact requested_inert hinert hword

theorem exists_seconds_minute : ∃ x, Interval.seconds "1m" = .ok x ∧ x.IsWord := by
  let minute : Magnitude := ⟨60 <<< 47, 1027, by decide⟩
  exact ⟨.finite false minute, by decide +kernel, minute, rfl, 60, by decide, by decide +kernel⟩

/-- Two pipelines are refused before a number is missed in the first. -/
theorem render_inert_several :
    let many : SavedPart := ⟨"topk", some ["many"], .known .filters⟩
    let settings : Settings := { rendering := { pipelinePolicy := .reject } }
    let create := Query.create .standard ⟨.inert, .empty⟩ settings
      { select := [[many], [.select .filters "topk"]] }
    ∃ q x, (create.eval {}).1 = .ok q ∧ q.statedWindow Interval.seconds = .ok (some x) ∧
      x.IsWord ∧ (q.render.eval {}).1 = .error (.severalPipelines 2) := by
  intro many settings create
  have hmany : Catalog.standard.resolve? many = some (.filter .top) := by decide +kernel
  have htopk : Catalog.standard.resolve? (.select .filters "topk") = some (.filter .top) := by
    decide +kernel
  have htime : (Catalog.standard.resolve? (.clause "time" (some ["1m"]))).isSome := by
    decide +kernel
  obtain ⟨x, hminute, hword⟩ := exists_seconds_minute
  obtain ⟨time, htime⟩ := Option.isSome_iff_exists.1 htime
  have hbind : Projection.bind .standard { select := [[many], [.select .filters "topk"]] } =
      .ok ⟨[[.bind (.filter .top) many], [.bind (.filter .top) (.select .filters "topk")]],
        [.bind time (.clause "time" (some ["1m"]))]⟩ :=
    Projection.bind_eq_ok_iff.2
      ⟨.cons (.cons (Catalog.binds_iff.2 ⟨_, hmany, rfl⟩) .nil)
        (.cons (.cons (Catalog.binds_iff.2 ⟨_, htopk, rfl⟩) .nil) .nil),
        .cons (Catalog.binds_iff.2 ⟨time, htime, rfl⟩) .nil⟩
  have hcreate : ∃ q, (create.eval {}).1 = .ok q ∧ q.context = ⟨.inert, .empty⟩ ∧
      q.settings = settings ∧ q.target.tags = [] ∧
      q.projection =
        ⟨[[.bind (.filter .top) many], [.bind (.filter .top) (.select .filters "topk")]],
          [.bind time (.clause "time" (some ["1m"]))]⟩ :=
    ⟨_, (gives_create _ _ _ _ _).trans (bind_eq_ok_iff.2 ⟨_, hbind, rfl⟩), rfl, rfl, rfl, rfl⟩
  obtain ⟨q, hq, hcontext, hsettings, htags, hprojection⟩ := hcreate
  have hwindow : q.statedWindow Interval.seconds = .ok (some x) := by
    have htype : time.type = SavedPart.timeType := (Catalog.key_of_resolve? htime).1.symm
    simp only [statedWindow, hprojection, Part.bind, htype, if_true]
    exact congrArg (Except.map some) hminute
  refine ⟨q, x, hq, hwindow, hword, ?_⟩
  have hcase := @render_inert_first_case q (by rw [hcontext]) (fun x hx => by
    rw [hwindow] at hx
    cases hx
    exact hword) {}
  have hpopulated : q.populated = 2 := by
    rw [populated, hprojection]
    rfl
  have hrefuses : q.RefusesPipelines := ⟨by rw [hsettings], by omega⟩
  generalize (q.render.eval {}).1 = outcome at hcase
  cases hcase with
  | operator h =>
    obtain ⟨tag, htag, -⟩ := h
    rw [htags] at htag
    cases htag
  | window _ h =>
    rw [hwindow] at h
    cases h
  | pipelines => rw [hpopulated]
  | param _ _ h => exact absurd hrefuses h
  | request _ _ h => exact absurd hrefuses h

end SeriesQuery.Query
