import SeriesQuery.Proofs.Query.FilterNumber
import SeriesQuery.Proofs.Query.GroupingTags

/-!
Queries of new targets. An interval that the settings are accepted with holds no placeholder, and
neither does anything that a select part of the standard catalog is rendered to with the parameters
of its definition. So no variable has a say in the request of such a query, however many parts are
added to it.
-/

namespace SeriesQuery

open Template (OpensNothing FixesWords)
open Template.Context (partsJson depth_partsJson_le)

namespace Interval

variable {cs rest : List Char} {amount : Amount} {unit : Unit} {c : Char}

theorem mem_of_amount? (h : amount? cs = some (amount, rest)) (hc : c ∈ cs) :
    c.isDigit = true ∨ c = '.' ∨ c ∈ rest := by
  have hspan : ∀ ds : List Char, c ∈ ds → c.isDigit = true ∨ c ∈ ds.dropWhile Char.isDigit := by
    intro ds hds
    rw [← List.takeWhile_append_dropWhile (p := Char.isDigit) (l := ds)] at hds
    exact (List.mem_append.1 hds).imp_left (List.all_eq_true.1 List.all_takeWhile c)
  unfold amount? at h
  obtain hdigit | hc := hspan cs hc
  · exact .inl hdigit
  generalize cs.dropWhile Char.isDigit = after at h hc
  split at h
  · cases h
  · next fraction _ _ =>
    split at h <;> cases h
    · exact .inr (.inr hc)
    · obtain rfl | hc := List.mem_cons.1 hc
      · exact .inr (.inl rfl)
      · exact (hspan _ hc).imp_right .inr
  · cases h
    exact .inr (.inr hc)

theorem opensNothing_of_amount? (h : amount? cs = some (amount, rest)) (hrest : OpensNothing rest) :
    OpensNothing cs := by
  intro c hc
  obtain hdigit | rfl | hc := mem_of_amount? h hc
  · constructor <;> rintro rfl <;> cases hdigit
  · decide
  · exact hrest c hc

theorem opensNothing_of_ofChars? (h : Unit.ofChars? rest = some unit) : OpensNothing rest := by
  unfold Unit.ofChars? at h
  split at h
  case h_9 => cases h
  all_goals decide

/-- A literal that denotes an interval holds no placeholder, whatever white space is around it. -/
theorem opensNothing_of_seconds {literal : String} {x : Binary64}
    (h : seconds literal = .ok x) : OpensNothing literal.toList := by
  refine Template.opensNothing_of_trimmed ?_
  simp only [seconds] at h
  split at h
  · cases h
  split at h
  · cases h
  · next amount rest hamount =>
    split at h
    · cases h
    · next unit hunit =>
      exact opensNothing_of_amount? hamount (opensNothing_of_ofChars? hunit)

end Interval

theorem Aggregator.mapText_eq_self {a : Aggregator} (h : a.groupingTags = [])
    (g : String → String) : a.mapText g = a := by
  induction a with
  | group tags each =>
    cases tags with
    | none => rfl
    | some values =>
      obtain rfl : values = [] := h
      rfl
  | filter kind k inner ih => exact congrArg (filter kind k) (ih h)
  | empty => rfl

/-- With the parameters of its definition a part is rendered to an aggregator without tags. -/
def Definition.standsAlone (d : Definition) : Bool :=
  match d.renderer with
  | .aggregate _ tags => (tags.getD []).isEmpty && d.defaultParams.isEmpty
  | .filter _ => (Part.int64? (Text.trimmed (d.defaultParams.headD "").toList)).isSome
  | .function => false

/-- Every select part of the standard catalog is rendered without being given parameters. -/
theorem Catalog.standsAlone_of_standard {category : Category} {type : String} {d : Definition}
    (h : Catalog.standard.get? (some category) type = some d) : d.standsAlone = true := by
  have hall : ∀ category ∈ Category.all, ∀ entry ∈ Catalog.standard.index (some category),
      entry.2.standsAlone = true := by
    decide +kernel
  obtain ⟨before, after, hentries, -⟩ := List.lookup_eq_some_iff.1 h
  exact hall category (by cases category <;> decide) (type, d) (by simp [hentries])

namespace Part

/-- The part is as its definition has it, and the definition is enough to render it. -/
structure IsFresh (part : Part) : Prop where
  standsAlone : part.definition.standsAlone = true
  params : part.params = part.definition.defaultParams

theorem IsFresh.exists_render {part : Part} (h : part.IsFresh) (interval : Option Binary64) :
    ∃ a, part.render none interval = .ok (.aggregator a) ∧ a.groupingTags = [] := by
  have halone := h.standsAlone
  unfold Definition.standsAlone at halone
  rw [← h.params] at halone
  cases hrenderer : part.definition.renderer with
  | aggregate kind tags =>
    simp only [hrenderer, Bool.and_eq_true, List.isEmpty_iff] at halone
    refine ⟨.single kind tags interval, ?_, halone.1⟩
    simp [render, hrenderer, halone.2]
  | filter kind =>
    simp only [hrenderer, Option.isSome_iff_exists] at halone
    obtain ⟨k, hk⟩ := halone
    refine ⟨.filter kind k .empty, ?_, rfl⟩
    simp only [render, hrenderer, hk]
  | function => simp [hrenderer] at halone

theorem IsFresh.exists_of_render {part : Part} (h : part.IsFresh) {interval : Option Binary64}
    {rendered : RenderedPart} (hrender : part.render none interval = .ok rendered) :
    ∃ a, rendered = .aggregator a ∧ a.groupingTags = [] := by
  obtain ⟨a, ha, htags⟩ := h.exists_render interval
  exact ⟨a, Except.ok.inj (hrender.symm.trans ha), htags⟩

end Part

namespace Query

variable {q q' : Query} {literal : String} {x : Binary64}

/-- What fresh parts are rendered to goes through its text unchanged, whatever the variables are. -/
theorem resolved_of_isFresh {parts : List Part} {interval : Option Binary64}
    {rendered : List RenderedPart} (hshipped : q.context.IsShipped)
    (hfresh : ∀ part ∈ parts, part.IsFresh)
    (hrendered : parts.mapM (fun part => part.render none interval) = .ok rendered)
    (hwhole : ∀ aggregator ∈ rendered, aggregator.IsWhole) :
    q.resolved partsJson (.list RenderedPart.reader) rendered = .ok rendered := by
  have hfixed : ∀ g, rendered.map (·.mapText g) = rendered := by
    intro g
    refine (List.map_congr_left fun aggregator haggregator => ?_).trans (List.map_id rendered)
    obtain ⟨part, hpart, hrender⟩ := exists_rel_of_mem (mapM_eq_ok_iff.1 hrendered) haggregator
    obtain ⟨a, rfl, htags⟩ := (hfresh part hpart).exists_of_render hrender
    exact congrArg RenderedPart.aggregator (Aggregator.mapText_eq_self htags g)
  have hplain : q.context.InsertsPlain (partsJson rendered) := by
    refine hshipped.insertsPlain_of_fixed fun g hg => ?_
    rw [Template.Context.mapText_partsJson hg, hfixed]
  have hdepth : (partsJson rendered).depth ≤ Json.Reader.levelLimit :=
    Nat.le_trans (depth_partsJson_le (Part.depth_of_mem_rendered hrendered)) (by decide)
  have hthrough := Template.Context.throughJson_parts hwhole hdepth hplain
  rw [hfixed] at hthrough
  exact mapError_eq_ok_iff.2 hthrough

/-- The query of a new target with this interval, to whose one pipeline parts may have been added.
-/
structure IsFresh (literal : String) (q : Query) : Prop where
  catalog : q.catalog = .standard
  shipped : q.context.IsShipped
  tags : q.target.tags = []
  clause : q.projection.groupBy.map Part.saved = [.clause SavedPart.timeType (some [literal])]
  pipeline : ∃ parts, q.projection.select = [parts] ∧ ∀ part ∈ parts, part.IsFresh

theorem exists_created_isFresh {context : Template.Context} (hshipped : context.IsShipped)
    (settings : Settings) :
    ∃ q, created .standard context settings settings.defaults.target = .ok q ∧
      q.IsFresh settings.defaults.groupByInterval ∧ q.projection.select = [[]] := by
  let target := settings.defaults.fill settings.defaults.target
  let saved : SavedPart := .clause SavedPart.timeType (some [settings.defaults.groupByInterval])
  have htime : (Catalog.standard.get? none SavedPart.timeType).isSome = true := by decide +kernel
  obtain ⟨d, hd⟩ := Option.isSome_iff_exists.1 htime
  have hbinds : Catalog.standard.Binds saved (.bind d saved) := Catalog.binds_iff.2 ⟨d, hd, rfl⟩
  have hbind : Projection.bind .standard target = .ok ⟨[[]], [.bind d saved]⟩ :=
    Projection.bind_eq_ok_iff.2 ⟨.cons .nil .nil, .cons hbinds .nil⟩
  refine ⟨_, bind_eq_ok_iff.2 ⟨_, hbind, rfl⟩, ⟨rfl, hshipped, rfl, ?_, [], rfl, by simp⟩, rfl⟩
  exact congrArg (fun saved => [saved]) hbinds.saved_eq_completed

theorem IsFresh.outcome_addSelectPart (h : q.IsFresh literal) {category : Category} {type : String}
    {position : Nat}
    (houtcome : Command.outcome q (.addSelectPart 0 category type position) = .ok q') :
    q'.IsFresh literal := by
  obtain ⟨parts, hselect, hparts⟩ := h.pipeline
  obtain ⟨_, -, houtcome⟩ := bind_eq_ok_iff.1 houtcome
  obtain ⟨part, hpart, houtcome⟩ := bind_eq_ok_iff.1 houtcome
  cases houtcome
  have hfresh : part.IsFresh := by
    obtain ⟨d, hd, rfl⟩ := Catalog.binds_iff.1 hpart
    rw [h.catalog] at hd
    exact ⟨Catalog.standsAlone_of_standard hd, rfl⟩
  have hadded : q.projection.select.modify 0 (insertAt part position) =
      [insertAt part position parts] := by
    rw [hselect]
    rfl
  refine ⟨h.catalog, h.shipped, h.tags, h.clause, insertAt part position parts, hadded,
    fun other hother => ?_⟩
  rcases mem_of_mem_insertAt hother with rfl | hother
  · exact hfresh
  · exact hparts other hother

namespace IsFresh

variable (h : q.IsFresh literal)

include h

theorem builtFilter_eq : q.builtFilter q.target.tags = .ok .always := by
  have hplain : q.context.InsertsPlain Filter.always.toJson :=
    h.shipped.insertsPlain_of_fixed fun g hg => Filter.mapText_toJson hg .always
  have halways := Template.Context.throughJson_filter (f := .always) (by decide) hplain
    List.not_mem_nil
  rw [h.tags, builtFilter, resolved, mapError_eq_ok_iff]
  exact halways

theorem samplingInterval_eq (hseconds : Interval.seconds literal = .ok x) :
    q.samplingInterval Interval.seconds = .ok (some x) := by
  have hopens : OpensNothing literal.toList := Interval.opensNothing_of_seconds hseconds
  obtain ⟨time, rest, hgroupBy, hsaved, -⟩ := List.map_eq_cons_iff.1 h.clause
  have hfixed : ∀ g, FixesWords g → time.saved.mapText g = time.saved := by
    intro g hg
    have htype : g SavedPart.timeType = SavedPart.timeType := hg _ (by decide)
    rw [hsaved]
    simp [SavedPart.mapText, SavedPart.clause, htype, hg _ hopens]
  have hscope : time.saved.scope.IsKnown := Scope.isKnown_ofCategory _
  have hplain : q.context.InsertsPlain time.saved.toJson := by
    refine h.shipped.insertsPlain_of_fixed fun g hg => ?_
    rw [SavedPart.mapText_toJson hg hscope, hfixed g hg]
  have hthrough := Template.Context.throughJson_savedPart hscope hplain
  rw [hfixed _ (h.shipped.replace_fixesWords none)] at hthrough
  have htype : time.definition.type = SavedPart.timeType := congrArg SavedPart.type hsaved
  have hparams : time.params = [literal] := Option.some.inj (congrArg SavedPart.params hsaved)
  have hliteral := Template.stringBody_bodyWith_of_isLiteral (q.context.inserted none)
    (Template.isLiteral_of_opensNothing hopens)
  have hresolved : q.resolved SavedPart.toJson SavedPart.reader time.saved = .ok time.saved :=
    mapError_eq_ok_iff.2 hthrough
  rw [samplingInterval_eq_bind hgroupBy htype hparams h.shipped hliteral, hresolved,
    String.ofList_toList, hseconds]
  rfl

theorem not_refusesPipelines : ¬ q.RefusesPipelines := by
  rintro ⟨-, hmany⟩
  obtain ⟨parts, hselect, -⟩ := h.pipeline
  have hone : q.populated ≤ [parts].length := by
    rw [populated, hselect]
    exact List.length_filter_le _ _
  exact absurd hmany (Nat.not_lt.2 hone)

theorem isFresh_of_firstPipeline {part : Part} (hpart : part ∈ q.firstPipeline) : part.IsFresh := by
  obtain ⟨parts, hselect, hparts⟩ := h.pipeline
  rw [firstPipeline, hselect] at hpart
  exact hparts part hpart

/-- Every part is rendered to one aggregator, and variables change none of them. -/
theorem exists_requested (hseconds : Interval.seconds literal = .ok x)
    (hwhole : q.firstPipeline = [] ∨ x.IsWord) :
    ∃ r, q.requested Interval.seconds = .ok r ∧ r.filter = .always ∧
      List.Forall₂ (fun part rendered => part.render none (some x) = .ok rendered ∧
        ∃ a, rendered = .aggregator a) q.firstPipeline r.aggregators := by
  have hfresh : ∀ part ∈ q.firstPipeline, part.IsFresh := fun _ => h.isFresh_of_firstPipeline
  obtain ⟨rendered, hrendered⟩ : ∃ rendered,
      q.firstPipeline.mapM (fun part => part.render none (some x)) = .ok rendered := by
    refine exists_mapM_eq_ok fun part hpart => ?_
    obtain ⟨a, ha, -⟩ := (hfresh part hpart).exists_render (some x)
    exact ⟨.aggregator a, ha⟩
  have hrel := mapM_eq_ok_iff.1 hrendered
  have hparts : ∀ aggregator ∈ rendered, aggregator.IsWhole := by
    obtain hnone | hword := hwhole
    · rw [hnone] at hrel
      cases hrel
      simp
    · exact Part.isWhole_of_mem_rendered hrendered (by simpa using hword)
  have haggregators : q.aggregators Interval.seconds = .ok rendered :=
    aggregators_eq_ok_iff.2 ⟨some x, rendered, h.samplingInterval_eq hseconds,
      h.not_refusesPipelines, hrendered, resolved_of_isFresh h.shipped hfresh hrendered hparts⟩
  refine ⟨⟨.always, rendered, q.features, q.settings.rendering.rangePlaceholder⟩, ?_, rfl, ?_⟩
  · rw [requested, h.builtFilter_eq, haggregators]
    rfl
  · refine ((List.forall₂_and_left _ _).2 ⟨hfresh, hrel⟩).imp fun part aggregator hpart => ?_
    obtain ⟨a, ha, -⟩ := hpart.1.exists_of_render hpart.2
    exact ⟨hpart.2, a, ha⟩

end IsFresh

end Query

theorem Settings.exists_seconds_of_validate {settings : Settings}
    (h : settings.validate = .ok ()) :
    ∃ x, Interval.seconds settings.defaults.groupByInterval = .ok x := by
  unfold Settings.validate at h
  split at h
  · cases h
  · cases hseconds : Interval.seconds settings.defaults.groupByInterval with
    | error fault =>
      rw [hseconds] at h
      cases h
    | ok x => exact ⟨x, rfl⟩

namespace Command

open Query

variable {literal : String} {s : Session} {commands : List Command}

def AddsToFirst : Command → Prop
  | addSelectPart pipeline _ _ _ => pipeline = 0
  | _ => False

theorem performAll_isFresh (h : s.query.IsFresh literal)
    (hadds : ∀ command ∈ commands, command.AddsToFirst) :
    (performAll s commands).query.IsFresh literal := by
  refine performAll_invariant (fun command hcommand q q' hq houtcome => ?_) h
  have hadd := hadds command hcommand
  cases command with
  | addSelectPart pipeline category type position =>
    cases hadd
    exact hq.outcome_addSelectPart houtcome
  | _ => exact absurd hadd id

/-- With a service of the library, settings that are accepted give every new target a query that is
rendered to the filter of everything, without aggregators, whatever the variables are. If the
interval is a whole number of seconds, then after any additions to the pipeline, successful or not,
the query is still rendered, to one aggregator for each part. -/
theorem performAll_default_render {settings : Settings} (hvalid : settings.validate = .ok ())
    (context : Template.Context) (hshipped : context.IsShipped) (m : Metrics) :
    ∃ q, ((create .standard context settings settings.defaults.target).eval m).1 = .ok q ∧
      (∀ m', ∃ r, (q.render.eval m').1 = .ok r ∧ r.filter = .always ∧ r.aggregators = []) ∧
      ∀ x, Interval.seconds settings.defaults.groupByInterval = .ok x → x.IsWord →
        ∀ (m₀ : Metrics) (commands : List Command),
          (∀ command ∈ commands, command.AddsToFirst) →
          let edited := (performAll ⟨q, m₀⟩ commands).query
          ∀ m', ∃ r, (edited.render.eval m').1 = .ok r ∧ r.filter = .always ∧
            List.Forall₂ (fun part rendered => part.render none (some x) = .ok rendered ∧
              ∃ a, rendered = .aggregator a) edited.firstPipeline r.aggregators := by
  obtain ⟨x, hseconds⟩ := Settings.exists_seconds_of_validate hvalid
  obtain ⟨q, hq, hfresh, hselect⟩ := exists_created_isFresh hshipped settings
  refine ⟨q, (gives_create _ _ _ _ m).trans hq, fun m' => ?_,
    fun x' hx' hword m₀ commands hadds => ?_⟩
  · have hnone : q.firstPipeline = [] := by
      rw [firstPipeline, hselect]
      rfl
    obtain ⟨r, hr, hfilter, haggregators⟩ := hfresh.exists_requested hseconds (.inl hnone)
    rw [hnone] at haggregators
    exact ⟨r, (gives_renderWith _ _ m').trans hr, hfilter, List.forall₂_nil_left_iff.1 haggregators⟩
  · intro edited m'
    have hedited : edited.IsFresh settings.defaults.groupByInterval :=
      performAll_isFresh hfresh hadds
    obtain ⟨r, hr, hfilter, haggregators⟩ := hedited.exists_requested hx' (.inr hword)
    exact ⟨r, (gives_renderWith _ _ m').trans hr, hfilter, haggregators⟩

/-- White space around the interval and a variable with a quote in it do no harm; of three parts one
is not in the catalog. -/
theorem performAll_minute_render :
    let settings : Settings := { defaults := { groupByInterval := "\t1m " } }
    let context := Template.Context.ofSingle "type" "\""
    let commands := [addSelectPart 0 .forEach "average" 0, addSelectPart 0 .filters "median" 0,
      addSelectPart 0 .filters "topk" 9]
    settings.validate = .ok () ∧
    (∃ x, Interval.seconds settings.defaults.groupByInterval = .ok x ∧ x.IsWord) ∧
    ∃ q, ((create .standard context settings settings.defaults.target).eval {}).1 = .ok q ∧
      ∃ r, ((performAll ⟨q, {}⟩ commands).query.render.eval {}).1 = .ok r ∧
        r.aggregators.length = 2 := by
  intro settings context commands
  have hvalid : settings.validate = .ok () := eq_ok_of_toOption (by decide +kernel)
  have hminute : Interval.seconds settings.defaults.groupByInterval = Interval.seconds "1m" := by
    decide +kernel
  obtain ⟨x, hx, hword⟩ := exists_seconds_minute
  obtain ⟨q, hq, -, hrender⟩ := performAll_default_render hvalid context trivial {}
  have hadds : ∀ command ∈ commands, command.AddsToFirst := by
    simp [commands, AddsToFirst]
  obtain ⟨r, hr, -, haggregators⟩ := hrender x (hminute.trans hx) hword {} commands hadds {}
  have htwo : ((create .standard context settings settings.defaults.target).eval {}).1.toOption.map
      (fun q => (performAll ⟨q, {}⟩ commands).query.firstPipeline.length) = some 2 := by
    decide +kernel
  rw [hq] at htwo
  exact ⟨hvalid, ⟨x, hminute.trans hx, hword⟩, q, hq, r, hr,
    haggregators.length_eq.symm.trans (Option.some.inj htwo)⟩

end Command

end SeriesQuery
