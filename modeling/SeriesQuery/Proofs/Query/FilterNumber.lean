import SeriesQuery.Proofs.Catalog.Slots
import SeriesQuery.Proofs.Query.VariableRender

/-!
The number of a part that selects series. It is read from the first parameter as that is written:
variables are replaced only in what the parts are rendered to, where the number is one already.
-/

namespace SeriesQuery

/-- White space around a text opens no placeholder. -/
theorem Template.opensNothing_of_trimmed {cs : List Char} (h : OpensNothing (Text.trimmed cs)) :
    OpensNothing cs := by
  intro c hc
  have hno : ∀ d : Char, Text.isBlank d = false → d ∉ Text.trimmed cs → c ≠ d := by
    rintro d hblank hd rfl
    exact hd (Text.mem_trimmed_of_not_isBlank hc hblank)
  exact ⟨hno '$' (by decide) fun hd => (h _ hd).1 rfl,
    hno '[' (by decide) fun hd => (h _ hd).2 rfl⟩

namespace Part

variable {cs : List Char} {value : Int} {literal : String} {k n : Int64} {part : Part}

theorem Denotes.mem_cases (h : Denotes cs value) {c : Char} (hc : c ∈ cs) :
    c = '+' ∨ c = '-' ∨ c.isDigit = true := by
  cases h with
  | unsigned h => exact .inr (.inr (h.2 c hc))
  | plus h => exact (List.mem_cons.1 hc).imp_right fun hc => .inr (h.2 c hc)
  | minus h =>
    rcases List.mem_cons.1 hc with hc | hc
    · exact .inr (.inl hc)
    · exact .inr (.inr (h.2 c hc))

theorem Denotes.ne_nil (h : Denotes cs value) : cs ≠ [] := by
  cases h with
  | unsigned h => exact h.1
  | plus h => exact List.cons_ne_nil _ _
  | minus h => exact List.cons_ne_nil _ _

theorem Denotes.notMem (h : Denotes cs value) {d : Char} (hplus : d ≠ '+') (hminus : d ≠ '-')
    (hdigit : d.isDigit = false) : d ∉ cs := by
  intro hd
  rcases h.mem_cases hd with rfl | rfl | hd
  · exact hplus rfl
  · exact hminus rfl
  · rw [hdigit] at hd
    cases hd

theorem Denotes.not_isBlank (h : Denotes cs value) {c : Char} (hc : c ∈ cs) :
    Text.isBlank c = false := by
  rcases h.mem_cases hc with rfl | rfl | hc
  · decide
  · decide
  · exact Text.not_isBlank_of_isDigit hc

theorem Denotes.opensNothing {raw : List Char} (h : Denotes (Text.trimmed raw) value) :
    Template.OpensNothing raw := by
  have hdollar : '$' ∉ Text.trimmed raw := h.notMem (by decide) (by decide) rfl
  have hbracket : '[' ∉ Text.trimmed raw := h.notMem (by decide) (by decide) rfl
  exact Template.opensNothing_of_trimmed fun c hc =>
    ⟨fun heq => hdollar (heq ▸ hc), fun heq => hbracket (heq ▸ hc)⟩

theorem exists_withParam_literal (part : Part) (h : Denotes literal.toList value) :
    ∃ edited, part.withParam 0 literal = .ok edited ∧ edited.definition = part.definition ∧
      edited.params.headD "" = literal := by
  have hcomma : ',' ∉ literal.toList := h.notMem (by decide) (by decide) rfl
  have hvalue : literal ≠ "" := fun hempty => h.ne_nil (by rw [hempty]; rfl)
  obtain ⟨edited, hedited, hdefinition, hparams⟩ :=
    exists_withParam_single (Nat.zero_le part.params.length) hvalue hcomma
  exact ⟨edited, hedited, hdefinition, by simp [hparams, splice]⟩

end Part

namespace Query

variable {q : Query} {reading : IntervalReading} {i : Nat} {part edited : Part}
  {parts : List RenderedPart} {rendered : RenderedPart} {r : Request}

theorem part_of_firstPipeline (hpart : q.firstPipeline[i]? = some part) :
    q.part 0 i = .ok part := by
  unfold firstPipeline at hpart
  cases hselect : q.projection.select with
  | nil =>
    rw [hselect] at hpart
    cases hpart
  | cons pipeline rest =>
    rw [hselect, List.headD_cons] at hpart
    exact part_eq_ok_iff.2 ⟨pipeline, by rw [hselect]; rfl, hpart⟩

def withPart (q : Query) (i : Nat) (edited : Part) : Query :=
  q.withSelect (q.projection.select.modify 0 (·.set i edited))

theorem firstPipeline_withPart (q : Query) (i : Nat) (edited : Part) :
    (q.withPart i edited).firstPipeline = q.firstPipeline.set i edited := by
  unfold withPart withSelect persist firstPipeline
  cases q.projection.select <;> rfl

theorem refusesPipelines_withPart (q : Query) (i : Nat) (edited : Part) :
    (q.withPart i edited).RefusesPipelines ↔ q.RefusesPipelines := by
  have hpopulated : (q.withPart i edited).populated = q.populated := by
    unfold withPart withSelect persist populated
    cases q.projection.select with
    | nil => rfl
    | cons pipeline rest =>
      have hempty : (pipeline.set i edited).isEmpty = pipeline.isEmpty := by
        cases pipeline with
        | nil => rfl
        | cons part rest => cases i <;> rfl
      change ((pipeline.set i edited :: rest).filter (!·.isEmpty)).length = _
      rw [List.filter_cons, List.filter_cons, hempty]
      split <;> rfl
  rw [RefusesPipelines, RefusesPipelines, hpopulated]
  rfl

theorem exists_split (hpart : q.firstPipeline[i]? = some part) :
    ∃ before after, before.length = i ∧ q.firstPipeline = before ++ part :: after ∧
      ∀ edited, q.firstPipeline.set i edited = before ++ edited :: after := by
  obtain ⟨hi, hget⟩ := List.getElem?_eq_some_iff.1 hpart
  have hset : ∀ edited, q.firstPipeline.set i edited =
      q.firstPipeline.take i ++ edited :: q.firstPipeline.drop (i + 1) := by
    intro edited
    rw [List.set_eq_take_append_cons_drop, if_pos hi]
  refine ⟨_, _, List.length_take_of_le (Nat.le_of_lt hi), ?_, hset⟩
  rw [← hset part, ← hget, List.set_getElem_self]

/-- If the pipeline can be rendered with another part in one place, the part that stands there
decides whether the query has aggregators. -/
theorem aggregators_of_withPart (hpart : q.firstPipeline[i]? = some part)
    (h : (q.withPart i edited).aggregators reading = .ok parts) :
    ((∀ interval, part.render none interval = edited.render none interval) →
      q.aggregators reading = .ok parts) ∧
    (part.LacksNumber → q.aggregators reading =
      .error (.invalidParam part.definition.type 0 (part.params.headD ""))) := by
  obtain ⟨interval, pipeline, hwindow, hpipelines, hpipeline, hparts⟩ := aggregators_eq_ok_iff.1 h
  obtain ⟨before, after, hlength, hfirst, hset⟩ := exists_split hpart
  rw [refusesPipelines_withPart] at hpipelines
  rw [firstPipeline_withPart, hset] at hpipeline
  have hsame : q.samplingInterval reading = .ok interval := hwindow
  constructor
  · intro hrender
    refine aggregators_eq_ok_iff.2 ⟨interval, pipeline, hsame, hpipelines, ?_, hparts⟩
    rw [hfirst, ← hpipeline]
    simp only [List.mapM_append, List.mapM_cons, hrender interval]
  · intro hlacks
    refine aggregators_of_lacksNumber hsame hpipelines hfirst (fun other hother hnone => ?_) hlacks
    have hforall := (mapM_eq_ok_iff.1 hpipeline).flip
    obtain ⟨rendered, -, hrendered⟩ := exists_rel_of_mem hforall
      (List.mem_append_left (edited :: after) hother)
    have hfails := hnone.render_eq none interval
    have hworks : other.render none interval = .ok rendered := hrendered
    rw [hfails] at hworks
    cases hworks

theorem requested_of_withPart (hpart : q.firstPipeline[i]? = some part)
    (h : (q.withPart i edited).requested reading = .ok r) :
    ((∀ interval, part.render none interval = edited.render none interval) →
      q.requested reading = .ok r) ∧
    (part.LacksNumber → q.requested reading =
      .error (.invalidParam part.definition.type 0 (part.params.headD ""))) := by
  obtain ⟨filter, hfilter, h⟩ := bind_eq_ok_iff.1 h
  obtain ⟨parts, haggregators, h⟩ := bind_eq_ok_iff.1 h
  obtain ⟨hsame, hlacks⟩ := aggregators_of_withPart hpart haggregators
  have hbuilt : q.builtFilter q.target.tags = .ok filter := hfilter
  refine ⟨fun hrender => ?_, fun hnone => ?_⟩
  · exact bind_eq_ok_iff.2 ⟨filter, hbuilt, bind_eq_ok_iff.2 ⟨parts, hsame hrender, h⟩⟩
  · rw [requested, hbuilt, hlacks hnone]
    rfl

end Query

namespace Command

open Query
open SeriesQuery.Part (Denotes)

/-- Let a literal in place of the first parameter of a part give a request, and let the parameter
become the number of the literal when its variables are replaced. If the parameter is a number
already as it is written, a service of the library leaves the query the same request; else it is
refused for this parameter, whatever the service makes of it. -/
theorem render_filter_number {s : Session} {i : Nat} {part : Part} {kind : SeriesFilter} {n : Int64}
    {literal : String} {r : Request} {m : Metrics}
    (hpart : s.query.firstPipeline[i]? = some part)
    (hkind : part.definition.renderer = .filter kind)
    (hvalue : Denotes
      (Text.trimmed (s.query.context.replace none (part.params.headD "")).toList) n.toInt)
    (hliteral : Denotes literal.toList n.toInt)
    (hrender : ((((updateSelectParam 0 i 0 literal).perform s).2.query.render).eval m).1 = .ok r) :
    (s.query.context.IsShipped → ¬ part.LacksNumber → ∀ m, (s.query.render.eval m).1 = .ok r) ∧
    (part.LacksNumber → ∀ m, (s.query.render.eval m).1 =
      .error (.invalidParam part.definition.type 0 (part.params.headD ""))) ∧
    (s.query.context.InsertsBodies →
      r.aggregators[i]? = some (.aggregator (.filter kind n .empty))) := by
  obtain ⟨edited, hedited, hdefinition, hparams⟩ := part.exists_withParam_literal hliteral
  have houtcome : (updateSelectParam 0 i 0 literal).outcome s.query =
      .ok (s.query.withPart i edited) :=
    bind_eq_ok_iff.2 ⟨part, part_of_firstPipeline hpart, bind_eq_ok_iff.2 ⟨edited, hedited, rfl⟩⟩
  have hquery : ((updateSelectParam 0 i 0 literal).perform s).2.query =
      s.query.withPart i edited := by
    rw [perform_query, houtcome]
    rfl
  rw [hquery, render, gives_renderWith] at hrender
  obtain ⟨hsame, hlacks⟩ := requested_of_withPart hpart hrender
  -- The literal has no white space around it, so that its part is rendered to its number.
  have hnumber : ∀ interval, edited.render none interval =
      .ok (.aggregator (.filter kind n .empty)) := by
    refine Part.render_of_literal (by rw [hdefinition, hkind]) ?_ none
    rw [hparams, Text.trimmed_eq_self fun _ => hliteral.not_isBlank]
    exact hliteral
  refine ⟨fun hshipped hpresent m => ?_, fun hnone m => ?_, fun hbodies => ?_⟩
  · rw [render, gives_renderWith]
    refine hsame fun interval => ?_
    obtain ⟨k, hk⟩ : ∃ k : Int64, Denotes (Text.trimmed (part.params.headD "").toList) k.toInt := by
      by_contra hno
      exact hpresent ⟨⟨kind, hkind⟩, not_exists.1 hno⟩
    rw [hshipped.replace_fixesWords none _ hk.opensNothing] at hvalue
    rw [hnumber, Part.render_of_literal hkind hvalue]
  · rw [render, gives_renderWith]
    exact hlacks hnone
  · obtain ⟨_, -, h⟩ := bind_eq_ok_iff.1 hrender
    obtain ⟨parts, haggregators, hr⟩ := bind_eq_ok_iff.1 h
    cases hr
    refine filter_of_aggregators (q := s.query.withPart i edited) hbodies haggregators ?_ hnumber
    rw [firstPipeline_withPart, List.getElem?_set_self (List.getElem?_eq_some_iff.1 hpart).1]

/-- The variable stands for the number that the part would have. -/
theorem render_topk_number :
    let topk : Part := .bind (.filter .top) ⟨"topk", some ["$n"], .known .filters⟩
    let context := Template.Context.ofSingle "n" "5"
    let target : Target := { groupBy := [], select := [[topk.record]] }
    let s : Session := ⟨⟨target, .standard, context, {}, ⟨[[topk]], []⟩⟩, {}⟩
    context.replace none "$n" = "5" ∧
    (∃ r, (((updateSelectParam 0 0 0 "5").perform s).2.query.render.eval {}).1 = .ok r ∧
      r.aggregators[0]? = some (.aggregator (.filter .top 5 .empty))) ∧
    (s.query.render.eval {}).1 = .error (.invalidParam "topk" 0 "$n") := by
  intro topk context target s
  have hreplace : context.replace none "$n" = "5" := by decide +kernel
  obtain ⟨r, hr⟩ : ∃ r, (((updateSelectParam 0 0 0 "5").perform s).2.query.render.eval {}).1 =
      .ok r :=
    exists_eq_ok_of_isOk (by decide +kernel)
  have hfive : Denotes "5".toList (5 : Int64).toInt := Part.int64?_eq_some_iff.1 (by decide)
  have hvalue : Denotes (Text.trimmed (context.replace none "$n").toList) (5 : Int64).toInt := by
    rw [hreplace]
    exact hfive
  have hnone : topk.LacksNumber := by
    refine ⟨⟨.top, rfl⟩, fun k hk => ?_⟩
    have hread : Part.int64? (Text.trimmed "$n".toList) = none := by decide
    cases hread.symm.trans (Part.int64?_eq_some_iff.2 hk)
  have hbodies : context.InsertsBodies :=
    Template.Context.insertsBodies_ofSingle (by decide) (by decide)
  obtain ⟨-, hrefused, hnumber⟩ := render_filter_number (s := s) (i := 0) rfl rfl hvalue hfive hr
  exact ⟨hreplace, ⟨r, hr, hnumber hbodies⟩, hrefused hnone {}⟩

/-- With the number written out there is a request, with a variable for it there is none. -/
theorem render_topk_variable_refused :
    let context := Template.Context.ofSingle "n" "5"
    let rendered (k : String) : Counted Request :=
      Query.create .standard context {} { select := [[⟨"topk", some [k], .known .filters⟩]] } >>=
        Query.render
    context.replace none "$n" = "5" ∧
    ((rendered "5").eval {}).1.toOption.map (·.aggregators) =
      some [.aggregator (.filter .top 5 .empty)] ∧
    ((rendered "$n").eval {}).1.toOption.map (·.aggregators) = none := by
  decide +kernel

end Command

end SeriesQuery
