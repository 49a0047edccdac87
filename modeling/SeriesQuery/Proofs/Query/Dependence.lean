import SeriesQuery.Proofs.Query.PlainRender

/-!
What a request depends on. While other pipelines are passed over, two queries whose targets agree on
their tags, on their first clause, on their first pipeline and on the global aggregation have the
same request or the same error.
-/

namespace SeriesQuery

/-- The targets agree on everything that a request is made of. -/
structure Target.AgreeInRequest (target target' : Target) : Prop where
  tags : target'.tags = target.tags
  globalAggregation : target'.globalAggregation = target.globalAggregation
  clause : target'.groupBy.head? = target.groupBy.head?
  pipeline : target'.select.headD [] = target.select.headD []

namespace Query

variable {q q' : Query} {reading : IntervalReading}

theorem Coherent.bind_firstPipeline (h : q.Coherent) :
    (q.target.select.headD []).mapM q.catalog.bind = .ok q.firstPipeline := by
  have hselect := h.select_binds
  rw [mapM_eq_ok_iff, firstPipeline]
  generalize q.target.select = records, q.projection.select = pipelines at hselect ⊢
  cases hselect with
  | nil => exact .nil
  | cons hpipeline _ => exact hpipeline

theorem Coherent.bind_firstClause (h : q.Coherent) :
    q.target.groupBy.head?.map q.catalog.bind = q.projection.groupBy.head?.map .ok := by
  have hgroupBy := h.groupBy_binds
  generalize q.target.groupBy = records, q.projection.groupBy = clauses at hgroupBy ⊢
  cases hgroupBy with
  | nil => rfl
  | cons hclause _ => exact congrArg some hclause

theorem firstPipeline_congr (h : q.Coherent) (h' : q'.Coherent) (halike : q.Alike q')
    (hview : q.target.AgreeInRequest q'.target) : q'.firstPipeline = q.firstPipeline := by
  have hbind := h'.bind_firstPipeline
  rw [halike.catalog, hview.pipeline, h.bind_firstPipeline] at hbind
  exact (Except.ok.inj hbind).symm

theorem firstClause_congr (h : q.Coherent) (h' : q'.Coherent) (halike : q.Alike q')
    (hview : q.target.AgreeInRequest q'.target) :
    q'.projection.groupBy.head? = q.projection.groupBy.head? := by
  have hbind := h'.bind_firstClause
  rw [halike.catalog, hview.clause, h.bind_firstClause] at hbind
  exact (Option.map_injective (fun _ _ => Except.ok.inj) hbind).symm

theorem samplingInterval_congr (hcontext : q'.context = q.context)
    (hclause : q'.projection.groupBy.head? = q.projection.groupBy.head?) :
    q'.samplingInterval reading = q.samplingInterval reading := by
  unfold samplingInterval resolved
  rw [hcontext]
  cases hq : q.projection.groupBy with
  | nil =>
    rw [hq, List.head?_nil, List.head?_eq_none_iff] at hclause
    rw [hclause]
  | cons clause rest =>
    rw [hq, List.head?_cons, List.head?_eq_some_iff] at hclause
    obtain ⟨rest', hrest'⟩ := hclause
    rw [hrest']

theorem aggregators_congr (halike : q.Alike q')
    (hpolicy : q.settings.rendering.pipelinePolicy = .first)
    (hclause : q'.projection.groupBy.head? = q.projection.groupBy.head?)
    (hpipeline : q'.firstPipeline = q.firstPipeline) :
    q'.aggregators reading = q.aggregators reading := by
  have hrefuses : ¬ q.RefusesPipelines := by simp [RefusesPipelines, hpolicy]
  have hrefuses' : ¬ q'.RefusesPipelines := by simp [RefusesPipelines, halike.settings, hpolicy]
  unfold aggregators resolved
  rw [renderedPipeline_of_not_refuses hrefuses, renderedPipeline_of_not_refuses hrefuses',
    samplingInterval_congr halike.context hclause, hpipeline, halike.context]

theorem features_congr (halike : q.Alike q') (hview : q.target.AgreeInRequest q'.target) :
    q'.features = q.features := by
  unfold features Target.isDistributed
  rw [hview.globalAggregation, halike.settings]

/-- Coherent queries that agree in what a request is made of have one request. -/
theorem requested_congr (h : q.Coherent) (h' : q'.Coherent) (halike : q.Alike q')
    (hpolicy : q.settings.rendering.pipelinePolicy = .first)
    (hview : q.target.AgreeInRequest q'.target) :
    q'.requested reading = q.requested reading := by
  have hfilter : q'.builtFilter q'.target.tags = q.builtFilter q.target.tags := by
    unfold builtFilter resolved plainFilter
    rw [hview.tags, halike.context, halike.settings]
  have haggregators : q'.aggregators reading = q.aggregators reading :=
    aggregators_congr halike hpolicy (firstClause_congr h h' halike hview)
      (firstPipeline_congr h h' halike hview)
  unfold requested
  rw [hfilter, haggregators, features_congr halike hview, halike.settings]

end Query

namespace Command

open Query

variable {q q' : Query}

/-- While other pipelines are passed over, a request depends on the tags, the global aggregation,
the first clause and the first pipeline of the target alone, whatever commands have led to them,
with any template service and for every reading of interval literals. -/
theorem performAll_render_congr {catalog : Catalog} {context : Template.Context}
    {settings : Settings} {target target' : Target} {m m' : Metrics}
    (h : ((Query.create catalog context settings target).eval m).1 = .ok q)
    (h' : ((Query.create catalog context settings target').eval m').1 = .ok q')
    (hpolicy : settings.rendering.pipelinePolicy = .first) (commands commands' : List Command) :
    let s := performAll ⟨q, ((Query.create catalog context settings target).eval m).2⟩ commands
    let s' := performAll ⟨q', ((Query.create catalog context settings target').eval m').2⟩ commands'
    s.query.target.AgreeInRequest s'.query.target → ∀ m₁ m₂,
      (s'.query.render.eval m₁).1 = (s.query.render.eval m₂).1 ∧
      ∀ reading, ((s'.query.renderWith reading).eval m₁).1 =
        ((s.query.renderWith reading).eval m₂).1 := by
  intro s s' hview m₁ m₂
  rw [gives_create] at h h'
  obtain ⟨hcoherent, -⟩ := performAll_coherent (s := ⟨q, _⟩) (created_coherent h) commands
  obtain ⟨hcoherent', -⟩ := performAll_coherent (s := ⟨q', _⟩) (created_coherent h') commands'
  have hs : q.Alike s.query := performAll_alike ⟨q, _⟩ commands
  have hs' : q'.Alike s'.query := performAll_alike ⟨q', _⟩ commands'
  obtain ⟨hcatalog, hcontext, hsettings⟩ := created_configuration h
  obtain ⟨hcatalog', hcontext', hsettings'⟩ := created_configuration h'
  have halike : s.query.Alike s'.query := by
    refine ⟨?_, ?_, ?_⟩
    · rw [hs'.catalog, hs.catalog, hcatalog', hcatalog]
    · rw [hs'.context, hs.context, hcontext', hcontext]
    · rw [hs'.settings, hs.settings, hsettings', hsettings]
  have hfirst : s.query.settings.rendering.pipelinePolicy = .first := by
    rw [hs.settings, hsettings, hpolicy]
  have hrender : ∀ reading, ((s'.query.renderWith reading).eval m₁).1 =
      ((s.query.renderWith reading).eval m₂).1 := by
    intro reading
    rw [gives_renderWith, gives_renderWith,
      requested_congr hcoherent hcoherent' halike hfirst hview]
  exact ⟨hrender Interval.seconds, hrender⟩

/-- Two targets with different measurements, series names, later clauses and later pipelines. -/
theorem performAll_topk_render_congr :
    let topk : SavedPart := .select .filters "topk"
    let sum : SavedPart := .select .collapse "sum"
    let context : Template.Context :=
      ⟨.dashboard (.set .empty "dc" (.ofValue (.single "eu"))), .empty⟩
    let target : Target :=
      { groupBy := [.clause "tag" (some ["$dc"])], select := [[topk], [sum, topk]] }
    let target' : Target :=
      { groupBy := [.clause "tag" (some ["$dc"]), .clause "fill" none], select := [[topk]],
        measurement := "cpu", seriesName := some "load", hide := some true }
    let made := (Query.create .standard context {} target).eval {}
    let made' := (Query.create .standard context {} target').eval {}
    let commands' := [setMeasurement "memory", addSelect]
    ∃ q q', made.1 = .ok q ∧ made'.1 = .ok q' ∧
      ((performAll ⟨q', made'.2⟩ commands').query.render.eval {}).1 =
        ((performAll ⟨q, made.2⟩ []).query.render.eval {}).1 := by
  intro topk sum context target target' made made' commands'
  have hmade : ∀ t ∈ [target, target'], ∃ p, Projection.bind .standard t = .ok p := by
    intro t ht
    have hbound : ∀ t ∈ [target, target'], (Projection.bind .standard t).isOk = true := by
      decide +kernel
    exact exists_eq_ok_of_isOk (hbound t ht)
  obtain ⟨p, hp⟩ := hmade target (by simp)
  obtain ⟨p', hp'⟩ := hmade target' (by simp)
  have hq : made.1 = .ok ⟨target, .standard, context, {}, p⟩ :=
    (gives_create _ _ _ _ _).trans (bind_eq_ok_iff.2 ⟨p, hp, rfl⟩)
  have hq' : made'.1 = .ok ⟨target', .standard, context, {}, p'⟩ :=
    (gives_create _ _ _ _ _).trans (bind_eq_ok_iff.2 ⟨p', hp', rfl⟩)
  have hview := performAll_render_congr hq hq' rfl [] commands' ⟨rfl, rfl, rfl, rfl⟩ {} {}
  exact ⟨_, _, hq, hq', hview.1⟩

end Command

end SeriesQuery
