import SeriesQuery.Proofs.Query.FilterShape
import SeriesQuery.Proofs.Query.VariableRender

/-!
The tags that the groupings of a request group by. Blank tags are dropped when a part is rendered,
and variables are replaced in the tags that are left, so that a blank tag comes from a variable
without visible text and from nothing else.
-/

namespace SeriesQuery

/-- The tags of the grouping that a part is rendered to, at any depth. -/
def Aggregator.groupingTags : Aggregator → List String
  | group tags _ => tags.getD []
  | filter _ _ inner => inner.groupingTags
  | empty => []

namespace RenderedPart

def groupingTags : RenderedPart → List String
  | aggregator value => value.groupingTags
  | expression _ => []

@[simp] theorem groupingTags_unsized (part : RenderedPart) :
    part.unsized.groupingTags = part.groupingTags := by
  cases part with
  | aggregator value =>
    induction value with
    | group tags each => rfl
    | filter kind k inner ih => exact ih
    | empty => rfl
  | expression text => rfl

@[simp] theorem groupingTags_mapText (g : String → String) (part : RenderedPart) :
    (part.mapText g).groupingTags = part.groupingTags.map g := by
  cases part with
  | aggregator value =>
    induction value with
    | group tags each => cases tags <;> rfl
    | filter kind k inner ih => exact ih
    | empty => rfl
  | expression text => rfl

end RenderedPart

namespace Template.Context

variable {context : Context} {p : Placeholder}

theorem meant_of_insertion {inserted : String} (h : context.insertion? none p = some inserted)
    (hplain : Json.ArePlain inserted.toList) : context.meant p = inserted.toList := by
  rw [meant, inserted_of_some h, (Json.stringBody_of_isPlain hplain).readString []]
  exact String.toList_ofList

theorem meant_of_unknown (hp : p.IsWritten) (h : context.insertion? none p = none) :
    context.meant p = p.source := by
  obtain ⟨-, -, hplain⟩ := Placeholder.source_of_atFront? hp
  rw [meant, inserted_of_none h, (Json.stringBody_of_isPlain hplain).readString []]
  exact String.toList_ofList

/-- No variable is without visible text, in any of the formats in which it is written. -/
def InsertsVisible (context : Context) : Prop :=
  ∀ p, p.IsWritten → (context.insertion? none p).isSome → (context.meant p).all Text.isBlank = false

theorem meaning_source (hp : p.IsWritten) :
    context.meaning (.ofList p.source) = .ofList (context.meant p) := by
  have hfront : Placeholder.atFront? (p.source ++ []) = some p := by
    rw [List.append_nil]
    exact hp
  have hsegments := segments_of_placeholder hfront
  rw [List.append_nil] at hsegments
  rw [meaning, String.toList_ofList, insertAll, hsegments, List.flatMap_cons]
  exact congrArg String.ofList (List.append_nil _)

theorem source_not_blank (hp : p.IsWritten) : p.source.all Text.isBlank = false := by
  by_contra hblank
  rw [Bool.not_eq_false, List.all_eq_true] at hblank
  have hnone : Placeholder.atFront? p.source = none := by
    refine Placeholder.atFront?_none (fun rest hrest => ?_) fun rest hrest => ?_
    · have hdollar := hblank '$' (by simp [hrest])
      exact absurd hdollar (by decide)
    · have hbracket := hblank '[' (by simp [hrest])
      exact absurd hbracket (by decide)
  rw [Placeholder.IsWritten, hnone] at hp
  cases hp

/-- While no variable is without visible text, text stays visible with its variables replaced. -/
theorem InsertsVisible.meaning_not_blank (h : context.InsertsVisible) {text : String}
    (htext : Text.isBlankText text = false) : Text.isBlankText (context.meaning text) = false := by
  have hmeant : ∀ p : Placeholder, p.IsWritten → (context.meant p).all Text.isBlank = false := by
    intro p hp
    cases hinsertion : context.insertion? none p with
    | some inserted => exact h p hp (by rw [hinsertion]; rfl)
    | none =>
      rw [meant_of_unknown hp hinsertion]
      exact source_not_blank hp
  rw [Text.isBlankText, meaning, String.toList_ofList]
  unfold Text.isBlankText at htext
  generalize text.toList = cs at htext ⊢
  induction cs using scan_induction with
  | hnil => cases htext
  | hplaceholder p after hp _ =>
    rw [insertAll, segments_of_placeholder hp, List.flatMap_cons, List.all_append]
    simp only [Segment.inserted, hmeant p (Placeholder.isWritten_of_atFront? hp), Bool.false_and]
  | hchar c cs hc ih =>
    rw [insertAll, segments_of_char hc, List.flatMap_cons, List.all_append, Bool.and_eq_false_iff]
    rw [List.all_cons, Bool.and_eq_false_iff] at htext
    exact htext.imp (fun hblank => by simp [Segment.inserted, hblank]) ih

end Template.Context

/-- The tags that an aggregation groups by when a part names none; none for other parts. -/
def Renderer.defaultTags : Renderer → List String
  | aggregate _ tags => tags.getD []
  | _ => []

/-- No aggregation of the standard catalog groups by tags that nobody has named. -/
theorem Catalog.defaultTags_of_standard {part : Part} (h : Catalog.standard.Owns part) :
    part.definition.renderer.defaultTags = [] := by
  have hall : ∀ category ∈ none :: Category.all.map some,
      ∀ entry ∈ Catalog.standard.index category, entry.2.renderer.defaultTags = [] := by
    decide +kernel
  obtain ⟨before, after, hentries, -⟩ := List.lookup_eq_some_iff.1 h.registered
  refine hall part.definition.category ?_ (part.definition.type, part.definition)
    (by simp [hentries])
  rcases part.definition.category with _ | _ | _ | _ | _ <;> decide

/-- Rendering a part drops its blank tags. -/
theorem Part.groupingTags_of_render {part : Part} {interval : Option Binary64}
    {rendered : RenderedPart} (hdefault : part.definition.renderer.defaultTags = [])
    (h : part.render none interval = .ok rendered) :
    ∀ tag ∈ rendered.groupingTags, Text.isBlankText tag = false := by
  intro tag htag
  unfold render at h
  cases hrenderer : part.definition.renderer with
  | aggregate kind defaultTags =>
    rw [hrenderer] at h hdefault
    cases h
    dsimp only [RenderedPart.groupingTags, Aggregator.single, Aggregator.groupingTags] at htag
    split at htag
    · rw [show defaultTags.getD [] = [] from hdefault] at htag
      cases htag
    · simpa using (List.mem_filter.1 htag).2
  | filter kind =>
    simp only [hrenderer] at h
    split at h <;> cases h
    cases htag
  | function =>
    rw [hrenderer] at h
    cases h
    cases htag

namespace Query

variable {q : Query} {r : Request}

theorem Coherent.owns_firstPipeline (h : q.Coherent) {part : Part}
    (hpart : part ∈ q.firstPipeline) : q.catalog.Owns part := by
  unfold firstPipeline at hpart
  cases hselect : q.projection.select with
  | nil =>
    rw [hselect] at hpart
    cases hpart
  | cons pipeline rest =>
    rw [hselect] at hpart
    have hpipeline : pipeline ∈ q.projection.select := by
      rw [hselect]
      exact List.mem_cons_self
    exact h.owns hpipeline hpart

/-- In a coherent query over the standard catalog variables with visible text make no tag blank. -/
theorem groupingTags_of_requested (hcoherent : q.Coherent) (hcatalog : q.catalog = .standard)
    (hbodies : q.context.InsertsBodies) (hvisible : q.context.InsertsVisible)
    {reading : IntervalReading} (h : q.requested reading = .ok r) :
    ∀ part ∈ r.aggregators, ∀ tag ∈ part.groupingTags, Text.isBlankText tag = false := by
  intro part hpart tag htag
  obtain ⟨interval, pipeline, hpipeline, hunsized⟩ :=
    map_unsized_of_aggregators hbodies (aggregators_of_requested h)
  have hmem := List.mem_map_of_mem (f := RenderedPart.unsized) hpart
  rw [hunsized] at hmem
  obtain ⟨rendered, hrendered, hsame⟩ := List.mem_map.1 hmem
  rw [← RenderedPart.groupingTags_unsized, ← hsame, RenderedPart.groupingTags_unsized,
    RenderedPart.groupingTags_mapText] at htag
  obtain ⟨written, hwritten, rfl⟩ := List.mem_map.1 htag
  obtain ⟨source, hsource, hrender⟩ := exists_rel_of_mem (mapM_eq_ok_iff.1 hpipeline) hrendered
  have howns : Catalog.standard.Owns source := hcatalog ▸ hcoherent.owns_firstPipeline hsource
  exact hvisible.meaning_not_blank
    (Part.groupingTags_of_render (Catalog.defaultTags_of_standard howns) hrender written hwritten)

section

variable (context : Template.Context) (tag : String)

def summing : Query :=
  let saved : SavedPart := ⟨"sum", some [tag], .known .groupBy⟩
  ⟨{ groupBy := [], select := [[saved]] }, .standard, context, {},
    ⟨[[.bind (.aggregation .sum .groupBy) saved]], []⟩⟩

theorem create_summing :
    ((create .standard context {} (summing context tag).target).eval {}).1 =
      .ok (summing context tag) := by
  have hsum : Catalog.standard.get? (some .groupBy) "sum" = some (.aggregation .sum .groupBy) := by
    decide +kernel
  have hbind : Projection.bind .standard (summing context tag).target =
      .ok (summing context tag).projection :=
    Projection.bind_eq_ok_iff.2
      ⟨.cons (.cons (Catalog.binds_iff.2 ⟨_, hsum, rfl⟩) .nil) .nil, .nil⟩
  exact (gives_create _ _ _ _ _).trans (bind_eq_ok_iff.2 ⟨_, hbind, rfl⟩)

theorem mapM_render_summing (htag : Text.isBlankText tag = false) :
    (summing context tag).firstPipeline.mapM (fun part => part.render none none) =
      .ok [.aggregator (.single .sum (some [tag]) none)] := by
  let part : Part := .bind (.aggregation .sum .groupBy) ⟨"sum", some [tag], .known .groupBy⟩
  have hfirst : (summing context tag).firstPipeline = [part] := rfl
  have hkept : part.params.filter (!Text.isBlankText ·) = [tag] := by
    have hparams : part.params = [tag] := rfl
    simp [hparams, htag]
  have hrenderer : part.definition.renderer = .aggregate .sum (some []) := rfl
  have hrender : part.render none none = .ok (.aggregator (.single .sum (some [tag]) none)) := by
    simp only [Part.render, hrenderer, hkept]
    rfl
  rw [hfirst, mapM_eq_ok_iff]
  exact .cons hrender .nil

variable {context tag}

theorem aggregators_summing (hbodies : context.InsertsBodies)
    (htag : Text.isBlankText tag = false) :
    (summing context tag).aggregators Interval.seconds =
      .ok [.aggregator (.single .sum (some [context.meaning tag]) none)] := by
  have hpipeline := mapM_render_summing context tag htag
  have hpopulated : (summing context tag).populated = 1 := rfl
  refine aggregators_eq_ok_iff.2 ⟨none, _, rfl, ?_, hpipeline, ?_⟩
  · simp [RefusesPipelines, hpopulated]
  · exact resolved_parts_of_insertsBodies (q := summing context tag) hbodies
      (Part.isWhole_of_mem_rendered hpipeline (by simp)) (Part.depth_of_mem_rendered hpipeline)

theorem exists_requested_summing (hbodies : context.InsertsBodies)
    (htag : Text.isBlankText tag = false) :
    ∃ r, (summing context tag).requested Interval.seconds = .ok r ∧
      r.aggregators = [.aggregator (.single .sum (some [context.meaning tag]) none)] := by
  have hfixed : ∀ record ∈ (summing context tag).target.tags, record.IsFixed :=
    fun _ hrecord => absurd hrecord List.not_mem_nil
  have hbuilt : (summing context tag).builtFilter _ = .ok _ :=
    builtFilter_of_insertsBodies hbodies hfixed
  have haggregators := aggregators_summing hbodies htag
  exact ⟨_, bind_eq_ok_iff.2 ⟨_, hbuilt, bind_eq_ok_iff.2 ⟨_, haggregators, rfl⟩⟩, rfl⟩

end

end Query

/-- However a query over the standard catalog is created with these variables and edited, no
grouping of its request has a blank tag. -/
def Template.Context.SendsVisibleTags (context : Template.Context) : Prop :=
  ∀ settings target m q, ((Query.create .standard context settings target).eval m).1 = .ok q →
    let created : Session := ⟨q, ((Query.create .standard context settings target).eval m).2⟩
    ∀ commands m' r, ((Command.performAll created commands).query.render.eval m').1 = .ok r →
      ∀ part ∈ r.aggregators, ∀ tag ∈ part.groupingTags, Text.isBlankText tag = false

namespace Command

open Query

/-- While insertions are bodies of strings, no query sends a blank tag exactly if no variable is
without visible text. -/
theorem sendsVisibleTags_iff {context : Template.Context} (hbodies : context.InsertsBodies) :
    context.SendsVisibleTags ↔ context.InsertsVisible := by
  constructor
  · intro hsends p hp hknown
    have hsource : Text.isBlankText (.ofList p.source) = false := by
      rw [Text.isBlankText, String.toList_ofList]
      exact Template.Context.source_not_blank hp
    obtain ⟨r, hrequested, haggregators⟩ := exists_requested_summing hbodies hsource
    have hrender : ((summing context (.ofList p.source)).render.eval {}).1 = .ok r :=
      (gives_renderWith _ Interval.seconds {}).trans hrequested
    have hvisible := hsends {} _ {} _ (create_summing context _) [] {} r hrender
    rw [haggregators] at hvisible
    have htag := hvisible _ List.mem_cons_self (context.meaning (.ofList p.source))
      List.mem_cons_self
    rwa [Template.Context.meaning_source hp, Text.isBlankText, String.toList_ofList] at htag
  · intro hvisible settings target m q hcreate created commands m' r hrender
    rw [gives_create] at hcreate
    obtain ⟨hcatalog, hcontext, -⟩ := created_configuration hcreate
    obtain ⟨hcoherent, hsame⟩ := performAll_coherent (s := created) (created_coherent hcreate)
      commands
    have halike : q.Alike (performAll created commands).query := performAll_alike created commands
    have hcontext : (performAll created commands).query.context = context :=
      halike.context.trans hcontext
    rw [render, gives_renderWith] at hrender
    exact groupingTags_of_requested hcoherent (hsame.trans hcatalog) (hcontext.symm ▸ hbodies)
      (hcontext.symm ▸ hvisible) hrender

/-- A variable with a visible value makes no tag blank. -/
theorem sendsVisibleTags_web1 :
    let context := Template.Context.ofSingle "host" "web1"
    context.InsertsBodies ∧ context.SendsVisibleTags := by
  intro context
  have hmeta : Template.escapeMeta "web1" = "web1" := by decide
  have hplain : Json.ArePlain "web1".toList := by decide
  have hbodies : context.InsertsBodies :=
    Template.Context.insertsBodies_ofSingle hmeta hplain
  refine ⟨hbodies, (sendsVisibleTags_iff hbodies).2 fun p _ hknown => ?_⟩
  obtain ⟨inserted, hinserted⟩ := Option.isSome_iff_exists.1 hknown
  obtain rfl : inserted = "web1" := Template.Context.insertion?_ofSingle hmeta hinserted
  rw [Template.Context.meant_of_insertion hinserted hplain]
  decide

/-- An empty variable is what the request groups by. -/
theorem render_empty_tag :
    let context := Template.Context.ofSingle "host" ""
    let sum : SavedPart := ⟨"sum", some ["$host"], .known .groupBy⟩
    let rendered : Counted Request :=
      Query.create .standard context {} { groupBy := [], select := [[sum]] } >>= Query.render
    (rendered.eval {}).1.toOption.map (·.aggregators.map RenderedPart.groupingTags) =
      some [[""]] := by
  decide +kernel

end Command

end SeriesQuery
