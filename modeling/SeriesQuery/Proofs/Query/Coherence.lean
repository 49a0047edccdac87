import SeriesQuery.Catalog.Standard
import SeriesQuery.Proofs.Catalog.Binding
import SeriesQuery.Proofs.Query.Outcome
import SeriesQuery.Proofs.Result

/-!
The two forms of a query agree. Whatever commands are given, a query keeps at least one pipeline,
and its parts are those that the records of its target stand for.
-/

namespace SeriesQuery

namespace Query

/-- The parts of a query are those that the records of its target stand for, at the same places. -/
structure Coherent (q : Query) : Prop where
  select_ne_nil : q.target.select ≠ []
  select_binds :
    List.Forall₂ (List.Forall₂ q.catalog.Binds) q.target.select q.projection.select
  groupBy_binds : List.Forall₂ q.catalog.Binds q.target.groupBy q.projection.groupBy

/-- The queries have one catalog, one context and the same settings. -/
structure Alike (q q' : Query) : Prop where
  catalog : q'.catalog = q.catalog
  context : q'.context = q.context
  settings : q'.settings = q.settings

theorem Alike.trans {q q' q'' : Query} (h : q.Alike q') (h' : q'.Alike q'') : q.Alike q'' :=
  ⟨h'.catalog.trans h.catalog, h'.context.trans h.context, h'.settings.trans h.settings⟩

end Query

theorem Projection.bind_eq_ok_iff {catalog : Catalog} {target : Target} {p : Projection} :
    Projection.bind catalog target = .ok p ↔
      List.Forall₂ (List.Forall₂ catalog.Binds) target.select p.select ∧
        List.Forall₂ catalog.Binds target.groupBy p.groupBy := by
  have hselect : target.select.mapM (fun pipeline => pipeline.mapM catalog.bind) = .ok p.select ↔
      List.Forall₂ (List.Forall₂ catalog.Binds) target.select p.select := by
    simp only [mapM_eq_ok_iff]
    rfl
  have hgroupBy : target.groupBy.mapM catalog.bind = .ok p.groupBy ↔
      List.Forall₂ catalog.Binds target.groupBy p.groupBy := mapM_eq_ok_iff
  rw [← hselect, ← hgroupBy]
  rcases p with ⟨select, groupBy⟩
  unfold Projection.bind
  cases target.select.mapM (fun pipeline => pipeline.mapM catalog.bind) <;>
    cases target.groupBy.mapM catalog.bind <;>
      simp [Bind.bind, Except.bind, pure, Except.pure]

namespace Query

variable {q q' : Query} {select : List (List Part)}

theorem Coherent.projection_eq (h : q.Coherent) :
    Projection.bind q.catalog q.target = .ok q.projection :=
  Projection.bind_eq_ok_iff.2 ⟨h.select_binds, h.groupBy_binds⟩

theorem Coherent.owns (h : q.Coherent) {parts : List Part} (hparts : parts ∈ q.projection.select)
    {part : Part} (hpart : part ∈ parts) : q.catalog.Owns part := by
  obtain ⟨pipeline, _, hpipeline⟩ := exists_rel_of_mem h.select_binds hparts
  obtain ⟨saved, _, hbinds⟩ := exists_rel_of_mem hpipeline hpart
  exact hbinds.owns

theorem Coherent.projection_ne_nil (h : q.Coherent) : q.projection.select ≠ [] := by
  intro hnil
  have hlength := h.select_binds.length_eq
  rw [hnil] at hlength
  exact h.select_ne_nil (List.eq_nil_of_length_eq_zero hlength)

theorem committed_coherent {candidate : Target} (hne : candidate.select ≠ [])
    (h : q.committed candidate = .ok q') : q'.Coherent := by
  obtain ⟨projection, hbind, hq'⟩ := bind_eq_ok_iff.1 h
  cases hq'
  obtain ⟨hselect, hgroupBy⟩ := Projection.bind_eq_ok_iff.1 hbind
  exact ⟨hne, hselect, hgroupBy⟩

/-- Pipelines of parts that belong to the catalog may take the place of those of a query. -/
theorem Coherent.withSelect (h : q.Coherent) (hne : select ≠ [])
    (howns : ∀ parts ∈ select, ∀ part ∈ parts, q.catalog.Owns part) :
    (q.withSelect select).Coherent := by
  refine ⟨by simpa [Query.withSelect, persist, savedSelect] using hne, ?_, h.groupBy_binds⟩
  simp only [Query.withSelect, persist, savedSelect]
  rw [List.forall₂_map_left_iff, List.forall₂_same]
  intro parts hparts
  rw [List.forall₂_map_left_iff, List.forall₂_same]
  intro part hpart
  exact (howns parts hparts part hpart).binds

theorem Coherent.persist (h : q.Coherent) : q.persist.Coherent :=
  h.withSelect h.projection_ne_nil fun _ hparts _ hpart => h.owns hparts hpart

theorem Coherent.eraseIdx (h : q.Coherent) (hmany : 1 < q.projection.select.length)
    (pipeline : Nat) : (q.withSelect (q.projection.select.eraseIdx pipeline)).Coherent := by
  have hlength := List.le_length_eraseIdx q.projection.select pipeline
  exact h.withSelect (List.ne_nil_of_length_pos (by omega)) fun parts hparts part hpart =>
    h.owns (List.mem_of_mem_eraseIdx hparts) hpart

theorem Coherent.modify (h : q.Coherent) (pipeline : Nat) {f : List Part → List Part}
    (howns : ∀ parts ∈ q.projection.select, ∀ part ∈ f parts, q.catalog.Owns part) :
    (q.withSelect (q.projection.select.modify pipeline f)).Coherent := by
  refine h.withSelect (by simpa using h.projection_ne_nil) fun parts hparts part hpart => ?_
  obtain ⟨i, hi, rfl⟩ := List.getElem_of_mem hparts
  rw [List.getElem_modify] at hpart
  have hmem := List.getElem_mem (by simpa using hi : i < q.projection.select.length)
  split at hpart
  · exact howns _ hmem part hpart
  · exact h.owns hmem hpart

theorem mem_of_mem_insertAt {α : Type} {item other : α} {position : Nat} {items : List α}
    (h : other ∈ insertAt item position items) : other = item ∨ other ∈ items := by
  simp only [insertAt, List.mem_append, List.mem_cons] at h
  rcases h with h | h | h
  · exact .inr (List.mem_of_mem_take h)
  · exact .inl h
  · exact .inr (List.mem_of_mem_drop h)

/-- A part is found where there is one. -/
theorem part_eq_ok_iff {pipeline place : Nat} {found : Part} :
    q.part pipeline place = .ok found ↔
      ∃ parts, q.projection.select[pipeline]? = some parts ∧ parts[place]? = some found := by
  constructor
  · intro h
    obtain ⟨_, hcheck, h⟩ := bind_eq_ok_iff.1 h
    have hparts := List.getElem?_eq_getElem (checkIndex_eq_ok_iff.1 hcheck)
    rw [hparts] at h
    dsimp only [Option.getD_some] at h
    split at h <;> cases h
    next hfound => exact ⟨_, hparts, hfound⟩
  · rintro ⟨parts, hparts, hfound⟩
    obtain ⟨hpipeline, -⟩ := List.getElem?_eq_some_iff.1 hparts
    refine bind_eq_ok_iff.2 ⟨(), checkIndex_eq_ok_iff.2 hpipeline, ?_⟩
    simp only [hparts, Option.getD_some, hfound]

theorem Coherent.owns_part (h : q.Coherent) {pipeline part : Nat} {found : Part}
    (hfound : q.part pipeline part = .ok found) : q.catalog.Owns found := by
  obtain ⟨parts, hparts, hfound⟩ := part_eq_ok_iff.1 hfound
  exact h.owns (List.mem_of_getElem? hparts) (List.mem_of_getElem? hfound)

theorem Coherent.owns_groupBy (h : q.Coherent) {part : Part} (hpart : part ∈ q.projection.groupBy) :
    q.catalog.Owns part := by
  obtain ⟨saved, _, hbinds⟩ := exists_rel_of_mem h.groupBy_binds hpart
  exact hbinds.owns

/-- The records that the parts give are those of the target, with the parameters of their
definitions where they have none. -/
theorem Coherent.savedSelect_eq (h : q.Coherent) :
    q.savedSelect = q.target.select.map (·.map q.catalog.completed) := by
  rw [savedSelect, eq_comm, ← List.forall₂_eq_eq_eq, List.forall₂_map_left_iff,
    List.forall₂_map_right_iff]
  refine h.select_binds.imp fun pipeline parts hpipeline => ?_
  rw [← List.forall₂_eq_eq_eq, List.forall₂_map_left_iff, List.forall₂_map_right_iff]
  exact hpipeline.imp fun _ _ hbinds => hbinds.saved_eq_completed.symm

/-- Writing the parts back completes the records by the parameters of their definitions. -/
theorem Coherent.persist_eq (h : q.Coherent) :
    q.persist = { q with target := { q.target with
      select := q.target.select.map (·.map q.catalog.completed) } } := by
  rw [Query.persist, h.savedSelect_eq]

theorem fill_select_ne_nil (d : Settings.Defaults) (target : Target) :
    (d.fill target).select ≠ [] := by
  simp only [Settings.Defaults.fill]
  split
  · simp
  · next h => simpa using h

theorem removeClause_select_ne_nil {target : Target} (index : Nat) (h : target.select ≠ []) :
    (target.removeClause index).select ≠ [] := by
  unfold Target.removeClause
  dsimp only
  split
  · split
    · simpa using h
    · exact h
  · exact h

theorem created_coherent {catalog : Catalog} {context : Template.Context} {settings : Settings}
    {target : Target} (h : created catalog context settings target = .ok q) : q.Coherent := by
  obtain ⟨projection, hbind, hq⟩ := bind_eq_ok_iff.1 h
  cases hq
  obtain ⟨hselect, hgroupBy⟩ := Projection.bind_eq_ok_iff.1 hbind
  exact ⟨fill_select_ne_nil _ _, hselect, hgroupBy⟩

/-- A query has the catalog, the context and the settings that it is created with. -/
theorem created_configuration {catalog : Catalog} {context : Template.Context} {settings : Settings}
    {target : Target} (h : created catalog context settings target = .ok q) :
    q.catalog = catalog ∧ q.context = context ∧ q.settings = settings := by
  obtain ⟨_, _, hq⟩ := bind_eq_ok_iff.1 h
  cases hq
  exact ⟨rfl, rfl, rfl⟩

theorem created_target {catalog : Catalog} {context : Template.Context} {settings : Settings}
    {target : Target} (h : created catalog context settings target = .ok q) :
    q.target = settings.defaults.fill target := by
  obtain ⟨_, _, hq⟩ := bind_eq_ok_iff.1 h
  cases hq
  rfl

end Query

namespace Command

open Query

variable {q q' : Query} {s : Session}

/-- Every command that succeeds leaves a coherent query coherent. -/
theorem outcome_coherent {command : Command} (h : q.Coherent) (hout : command.outcome q = .ok q') :
    q'.Coherent := by
  cases command with
  | setTarget target => exact committed_coherent (fill_select_ne_nil _ _) hout
  | setTags tags =>
    cases hout
    exact ⟨h.select_ne_nil, h.select_binds, h.groupBy_binds⟩
  | setMeasurement measurement =>
    cases hout
    exact ⟨h.select_ne_nil, h.select_binds, h.groupBy_binds⟩
  | setGlobalAggregation enabled =>
    cases hout
    exact ⟨h.select_ne_nil, h.select_binds, h.groupBy_binds⟩
  | addGroupBy text =>
    obtain ⟨expression, _, hout⟩ := bind_eq_ok_iff.1 hout
    obtain ⟨part, _, hout⟩ := bind_eq_ok_iff.1 hout
    refine committed_coherent ?_ hout
    exact h.select_ne_nil
  | removeGroupByPart index =>
    obtain ⟨_, _, hout⟩ := bind_eq_ok_iff.1 hout
    exact committed_coherent (removeClause_select_ne_nil _ h.select_ne_nil) hout
  | addSelect =>
    cases hout
    exact ⟨by simp [withPipeline], List.rel_append h.select_binds (.cons .nil .nil),
      h.groupBy_binds⟩
  | removeSelect index =>
    obtain ⟨_, _, hout⟩ := bind_eq_ok_iff.1 hout
    split at hout <;> cases hout
    · next hmany => exact h.eraseIdx hmany index
    · exact h
  | addSelectPart pipeline category type position =>
    obtain ⟨_, _, hout⟩ := bind_eq_ok_iff.1 hout
    obtain ⟨part, hpart, hout⟩ := bind_eq_ok_iff.1 hout
    cases hout
    refine h.modify _ fun parts hparts other hother => ?_
    rcases mem_of_mem_insertAt hother with rfl | hother
    · exact Catalog.Binds.owns hpart
    · exact h.owns hparts hother
  | removeSelectPart pipeline part =>
    obtain ⟨found, _, hout⟩ := bind_eq_ok_iff.1 hout
    cases hout
    unfold selectWithout
    split
    · split
      · next hmany => exact h.eraseIdx hmany pipeline
      · exact h.persist
    · exact h.modify _ fun parts hparts other hother =>
        h.owns hparts (List.mem_of_mem_eraseIdx hother)
  | updateSelectParam pipeline part param value =>
    obtain ⟨found, hfound, hout⟩ := bind_eq_ok_iff.1 hout
    obtain ⟨edited, hedited, hout⟩ := bind_eq_ok_iff.1 hout
    cases hout
    refine h.modify _ fun parts hparts other hother => ?_
    rcases List.mem_or_eq_of_mem_set hother with hother | rfl
    · exact h.owns hparts hother
    · exact (h.owns_part hfound).withParam hedited
  | updateProjection =>
    obtain ⟨projection, hbind, hout⟩ := bind_eq_ok_iff.1 hout
    rw [h.projection_eq] at hbind
    cases hbind
    cases hout
    exact h
  | updatePersistedParts =>
    cases hout
    exact h.persist

theorem committed_alike {candidate : Target} (h : q.committed candidate = .ok q') :
    q.Alike q' := by
  obtain ⟨_, _, hq'⟩ := bind_eq_ok_iff.1 h
  cases hq'
  exact ⟨rfl, rfl, rfl⟩

/-- No command changes the catalog, the context or the settings. -/
theorem outcome_alike {command : Command} (hout : command.outcome q = .ok q') : q.Alike q' := by
  cases command with
  | setTarget target => exact committed_alike hout
  | addGroupBy text =>
    obtain ⟨_, _, hout⟩ := bind_eq_ok_iff.1 hout
    obtain ⟨_, _, hout⟩ := bind_eq_ok_iff.1 hout
    exact committed_alike hout
  | removeGroupByPart index =>
    obtain ⟨_, _, hout⟩ := bind_eq_ok_iff.1 hout
    exact committed_alike hout
  | removeSelect index =>
    obtain ⟨_, _, hout⟩ := bind_eq_ok_iff.1 hout
    split at hout <;> cases hout <;> exact ⟨rfl, rfl, rfl⟩
  | addSelectPart pipeline category type position =>
    obtain ⟨_, _, hout⟩ := bind_eq_ok_iff.1 hout
    obtain ⟨_, _, hout⟩ := bind_eq_ok_iff.1 hout
    cases hout
    exact ⟨rfl, rfl, rfl⟩
  | removeSelectPart pipeline part =>
    obtain ⟨_, _, hout⟩ := bind_eq_ok_iff.1 hout
    cases hout
    exact ⟨rfl, rfl, rfl⟩
  | updateSelectParam pipeline part param value =>
    obtain ⟨_, _, hout⟩ := bind_eq_ok_iff.1 hout
    obtain ⟨_, _, hout⟩ := bind_eq_ok_iff.1 hout
    cases hout
    exact ⟨rfl, rfl, rfl⟩
  | updateProjection =>
    obtain ⟨_, _, hout⟩ := bind_eq_ok_iff.1 hout
    cases hout
    exact ⟨rfl, rfl, rfl⟩
  | _ =>
    cases hout
    exact ⟨rfl, rfl, rfl⟩

theorem performAll_alike (s : Session) (commands : List Command) :
    s.query.Alike (performAll s commands).query :=
  performAll_invariant (fun _ _ _ _ hq hout => hq.trans (outcome_alike hout)) ⟨rfl, rfl, rfl⟩

theorem performAll_coherent (h : s.query.Coherent) (commands : List Command) :
    (performAll s commands).query.Coherent ∧
      (performAll s commands).query.catalog = s.query.catalog :=
  performAll_invariant (P := fun q => q.Coherent ∧ q.catalog = s.query.catalog)
    (fun _ _ _ _ hq hout => ⟨outcome_coherent hq.1 hout, (outcome_alike hout).catalog.trans hq.2⟩)
    ⟨h, rfl⟩

/-- A query stays coherent from its creation on, with the catalog that it is created with. -/
theorem coherent_of_create {catalog : Catalog} {context : Template.Context}
    {settings : Settings} {target : Target} {m : Metrics}
    (h : ((Query.create catalog context settings target).eval m).1 = .ok q) (m' : Metrics)
    (commands : List Command) :
    (performAll ⟨q, m'⟩ commands).query.Coherent ∧
      (performAll ⟨q, m'⟩ commands).query.catalog = catalog := by
  rw [Query.gives_create] at h
  obtain ⟨hcoherent, hcatalog⟩ := performAll_coherent (s := ⟨q, m'⟩) (created_coherent h) commands
  exact ⟨hcoherent, hcatalog.trans (created_configuration h).1⟩

/-- Binding a coherent target anew succeeds and changes nothing. -/
theorem perform_updateProjection (h : s.query.Coherent) :
    (updateProjection.perform s).1 = .ok () ∧ (updateProjection.perform s).2.query = s.query := by
  have hout : updateProjection.outcome s.query = .ok s.query := by
    simp only [outcome, h.projection_eq]
    rfl
  rw [perform_fst, perform_query, hout]
  exact ⟨rfl, rfl⟩

/-- A query stays coherent from its creation on, whatever commands are given and whether they fail
or not: it keeps a pipeline, its parts are those that its records stand for, and every part gives
the record it carries. Binding the parts anew changes nothing, and writing them back gives records
without parameters those of their definitions. -/
theorem performAll_create_coherent {catalog : Catalog} {context : Template.Context}
    {settings : Settings} {target : Target} {m : Metrics}
    (h : ((Query.create catalog context settings target).eval m).1 = .ok q)
    (commands : List Command) :
    let s := performAll ⟨q, ((Query.create catalog context settings target).eval m).2⟩ commands
    s.query.target.select ≠ [] ∧
      ((Projection.ofTarget catalog s.query.target).eval s.metrics).1 = .ok s.query.projection ∧
      List.Forall₂ (List.Forall₂ fun saved part => catalog.bind saved = .ok part)
        s.query.target.select s.query.projection.select ∧
      List.Forall₂ (fun saved part => catalog.bind saved = .ok part)
        s.query.target.groupBy s.query.projection.groupBy ∧
      (∀ part ∈ s.query.projection.select.flatten ++ s.query.projection.groupBy,
        part.record = part.saved) ∧
      (updateProjection.perform s).1 = .ok () ∧ (updateProjection.perform s).2.query = s.query ∧
      (updatePersistedParts.perform s).1 = .ok () ∧
      (updatePersistedParts.perform s).2.query = { s.query with target := { s.query.target with
        select := s.query.target.select.map (·.map catalog.completed) } } := by
  intro s
  rw [Query.gives_create] at h
  obtain ⟨hcoherent, hcatalog⟩ :=
    performAll_coherent (s := ⟨q, _⟩) (created_coherent h) commands
  have hs : s.query.catalog = catalog := hcatalog.trans (created_configuration h).1
  have hprojection := Projection.gives_ofTarget catalog s.query.target s.metrics
  obtain ⟨hanswer, hsame⟩ := perform_updateProjection hcoherent
  refine ⟨hcoherent.select_ne_nil, ?_, ?_, ?_, ?_, hanswer, hsame, ?_, ?_⟩
  · rw [hprojection, ← hs]
    exact hcoherent.projection_eq
  · rw [← hs]
    exact hcoherent.select_binds
  · rw [← hs]
    exact hcoherent.groupBy_binds
  · intro part hpart
    rcases List.mem_append.1 hpart with hpart | hpart
    · obtain ⟨parts, hparts, hpart⟩ := List.mem_flatten.1 hpart
      exact (hcoherent.owns hparts hpart).record_eq_saved
    · exact (hcoherent.owns_groupBy hpart).record_eq_saved
  · rw [perform_fst]
    rfl
  · rw [perform_query, ← hs]
    exact hcoherent.persist_eq

/-- A record without parameters, then a part that has no definition and a slot that is not there. -/
theorem performAll_create_topk_coherent :
    let target : Target := { select := [[.select .filters "topk"]] }
    let create := Query.create .standard ⟨.inert, .empty⟩ {} target
    let commands := [addSelectPart 0 .collapse "median" 3, updateSelectParam 0 0 2 "7", addSelect]
    ∃ q, (create.eval {}).1 = .ok q ∧
      (performAll ⟨q, (create.eval {}).2⟩ commands).query.target.select ≠ [] ∧
      (updateProjection.perform (performAll ⟨q, (create.eval {}).2⟩ commands)).1 = .ok () := by
  intro target create commands
  have htopk : (Catalog.standard.resolve? (.select .filters "topk")).isSome := by decide +kernel
  have htime : (Catalog.standard.resolve? (.clause "time" (some ["1m"]))).isSome := by
    decide +kernel
  obtain ⟨topk, htopk⟩ := Option.isSome_iff_exists.1 htopk
  obtain ⟨time, htime⟩ := Option.isSome_iff_exists.1 htime
  have hcreate : ∃ q, (create.eval {}).1 = .ok q := by
    have hbind : Projection.bind .standard target =
        .ok ⟨[[.bind topk (.select .filters "topk")]],
          [.bind time (.clause "time" (some ["1m"]))]⟩ :=
      Projection.bind_eq_ok_iff.2
        ⟨.cons (.cons (Catalog.binds_iff.2 ⟨topk, htopk, rfl⟩) .nil) .nil,
          .cons (Catalog.binds_iff.2 ⟨time, htime, rfl⟩) .nil⟩
    exact ⟨_, (Query.gives_create _ _ _ _ _).trans (bind_eq_ok_iff.2 ⟨_, hbind, rfl⟩)⟩
  obtain ⟨q, hq⟩ := hcreate
  obtain ⟨hne, -, -, -, -, hanswer, -⟩ := performAll_create_coherent hq commands
  exact ⟨q, hq, hne, hanswer⟩

end Command

end SeriesQuery
