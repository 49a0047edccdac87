import SeriesQuery.Query.Command
import SeriesQuery.Query.Request

/-!
What computations give, apart from what they count on the way. No result depends on earlier counts,
and every edit either makes another query or fails and leaves the query alone.
-/

namespace SeriesQuery

namespace Counted

variable {α β : Type} {act : Counted α} {result : Except Error α}

/-- A computation has this result whatever has been counted before. -/
def Gives (act : Counted α) (result : Except Error α) : Prop :=
  ∀ m, (act.eval m).1 = result

theorem gives_pure (a : α) : Gives (pure a) (.ok a) := fun _ => rfl

theorem gives_ofResult (result : Except Error α) : Gives (ofResult result) result := fun _ => rfl

theorem gives_count (record : Metrics → Metrics) : Gives (count record) (.ok ()) := fun _ => rfl

theorem gives_bind {next : α → Counted β} {following : α → Except Error β}
    (hact : act.Gives result) (hnext : ∀ a, (next a).Gives (following a)) :
    (act >>= next).Gives (result >>= following) := by
  intro m
  have hm := hact m
  rw [eval_bind]
  rcases h : act.eval m with ⟨e | a, m'⟩ <;> rw [h] at hm <;> subst hm
  · rfl
  · exact hnext a m'

theorem gives_tracked (operation : Operation) (hact : act.Gives result) :
    (tracked operation act).Gives result := by
  intro m
  have hm := hact m
  rw [eval_tracked]
  rcases h : act.eval m with ⟨e | a, m'⟩ <;> rw [h] at hm <;> exact hm

/-- Counting the outcome behind a computation leaves its result. -/
theorem gives_counting (hact : act.Gives result) (record : Except Error α → Metrics → Metrics) :
    Gives (ExceptT.mk do
      let outcome ← act.run
      modify (record outcome)
      return outcome) result :=
  hact

theorem gives_mapM {f : α → Counted β} {g : α → Except Error β} (h : ∀ a, (f a).Gives (g a))
    (xs : List α) : Gives (xs.mapM f) (xs.mapM g) := by
  induction xs with
  | nil => exact gives_pure []
  | cons x xs ih =>
    simp only [List.mapM_cons]
    exact gives_bind (h x) fun b => gives_bind ih fun bs => gives_pure (b :: bs)

end Counted

open Counted

/-- The parts of a target, bound in the order of its records. -/
def Projection.bind (catalog : Catalog) (target : Target) : Except Error Projection := do
  let select ← target.select.mapM fun pipeline => pipeline.mapM catalog.bind
  let groupBy ← target.groupBy.mapM catalog.bind
  return ⟨select, groupBy⟩

theorem Catalog.gives_lookup (catalog : Catalog) (saved : SavedPart) :
    (catalog.lookup saved).Gives (catalog.bind saved) :=
  gives_bind (gives_count _) fun _ => gives_ofResult _

theorem Projection.gives_ofTarget (catalog : Catalog) (target : Target) :
    (Projection.ofTarget catalog target).Gives (Projection.bind catalog target) :=
  gives_bind (gives_mapM (fun pipeline => gives_mapM catalog.gives_lookup pipeline) _)
    fun _ => gives_bind (gives_mapM catalog.gives_lookup _) fun _ => gives_pure _

namespace Query

/-- The query that is created for a target. -/
def created (catalog : Catalog) (context : Template.Context) (settings : Settings)
    (target : Target) : Except Error Query := do
  let target := settings.defaults.fill target
  let projection ← Projection.bind catalog target
  return ⟨target, catalog, context, settings, projection⟩

theorem gives_create (catalog : Catalog) (context : Template.Context) (settings : Settings)
    (target : Target) :
    (create catalog context settings target).Gives (created catalog context settings target) :=
  gives_bind (gives_tracked _ (Projection.gives_ofTarget _ _)) fun _ => gives_pure _

/-- The filter of tag records with its variables replaced. -/
def builtFilter (q : Query) (tags : List Tag) : Except Error Filter :=
  q.resolved Filter.toJson Filter.reader (q.plainFilter tags)

theorem gives_buildFilter (q : Query) (tags : List Tag) :
    (q.buildFilter tags).Gives (q.builtFilter tags) :=
  gives_tracked _ (gives_ofResult _)

/-- The request of a query for a reading of interval literals. -/
def requested (q : Query) (reading : IntervalReading) : Except Error Request := do
  let filter ← q.builtFilter q.target.tags
  let aggregators ← q.aggregators reading
  return ⟨filter, aggregators, q.features, q.settings.rendering.rangePlaceholder⟩

theorem gives_renderWith (q : Query) (reading : IntervalReading) :
    (q.renderWith reading).Gives (q.requested reading) := by
  have h : (q.request reading).Gives (q.requested reading) :=
    gives_bind (gives_buildFilter _ _) fun _ => gives_bind (gives_ofResult _) fun _ => gives_pure _
  exact gives_counting (gives_tracked .render h) _

end Query

namespace Edit

variable {α β : Type} {edit : Edit α} {read : Query → Except Error α}

/-- An edit looks something up and leaves the query alone. -/
def Reads (edit : Edit α) (read : Query → Except Error α) : Prop :=
  ∀ s, (edit.eval s).1 = read s.query ∧ (edit.eval s).2.query = s.query

/-- An edit makes another query, or it fails and leaves the query alone. -/
def Makes (edit : Edit Unit) (outcome : Query → Except Error Query) : Prop :=
  ∀ s, (edit.eval s).1 = (outcome s.query).map (fun _ => ()) ∧
    (edit.eval s).2.query = (outcome s.query).toOption.getD s.query

theorem reads_query : Reads query .ok := fun _ => ⟨rfl, rfl⟩

theorem reads_counted {act : Counted α} {result : Except Error α} (h : act.Gives result) :
    Reads (counted act) fun _ => result :=
  fun s => ⟨h s.metrics, rfl⟩

theorem reads_require (operation : Operation) (result : Except Error α) :
    Reads (require operation result) fun _ => result :=
  reads_counted (gives_tracked _ (gives_ofResult _))

theorem makes_pure : Makes (pure ()) .ok := fun _ => ⟨rfl, rfl⟩

theorem makes_setQuery (q : Query) : Makes (setQuery q) fun _ => .ok q := fun _ => ⟨rfl, rfl⟩

theorem makes_recorded (operation : Operation) (q : Query) :
    Makes (do setQuery q; recordEdit operation) fun _ => .ok q := fun _ => ⟨rfl, rfl⟩

theorem makes_bind {next : α → Edit Unit} {outcome : α → Query → Except Error Query}
    (hread : edit.Reads read) (hnext : ∀ a, (next a).Makes (outcome a)) :
    (edit >>= next).Makes fun q => read q >>= fun a => outcome a q := by
  intro s
  obtain ⟨hresult, hquery⟩ := hread s
  rw [eval_bind]
  rcases h : edit.eval s with ⟨e | a, s'⟩ <;> rw [h] at hresult hquery <;> dsimp only
  · have hfails : (read s.query >>= fun a => outcome a s.query) = .error e := by
      rw [← hresult]
      rfl
    rw [hfails]
    exact ⟨rfl, hquery⟩
  · have hgoes : (read s.query >>= fun a => outcome a s.query) = outcome a s'.query := by
      rw [← hresult, hquery]
      rfl
    rw [hgoes, ← hquery]
    exact hnext a s'

theorem makes_ite {c : Prop} [Decidable c] {one other : Edit Unit}
    {outcome alternative : Query → Except Error Query}
    (hone : one.Makes outcome) (hother : other.Makes alternative) :
    Makes (if c then one else other) fun q => if c then outcome q else alternative q := by
  split
  · exact hone
  · exact hother

end Edit

namespace Query

theorem checkIndex_eq_ok_iff {what : Indexed} {index length : Nat} {a : Unit} :
    checkIndex what index length = .ok a ↔ index < length := by
  unfold checkIndex
  split
  next hlt => exact iff_of_true rfl hlt
  next hlt => exact iff_of_false nofun hlt

/-- The query with another target, provided that all parts of the target have definitions. -/
def committed (q : Query) (candidate : Target) : Except Error Query := do
  let projection ← Projection.bind q.catalog candidate
  return { q with target := candidate, projection }

/-- The query with one more empty pipeline. -/
def withPipeline (q : Query) : Query :=
  { q with
    target := { q.target with select := q.target.select ++ [[]] }
    projection := { q.projection with select := q.projection.select ++ [[]] } }

theorem makes_commit (operation : Operation) (candidate : Target) :
    (commit operation candidate).Makes (·.committed candidate) :=
  Edit.makes_bind Edit.reads_query fun _ =>
    Edit.makes_bind (Edit.reads_counted (gives_tracked _ (Projection.gives_ofTarget _ _)))
      fun _ => Edit.makes_recorded _ _

end Query

namespace Command

/-- The query that a command makes of a query. -/
def outcome (q : Query) : Command → Except Error Query
  | setTarget target => q.committed (q.settings.defaults.fill target)
  | setTags tags => .ok { q with target := { q.target with tags } }
  | setMeasurement measurement => .ok { q with target := { q.target with measurement } }
  | setGlobalAggregation enabled =>
    .ok { q with target := { q.target with globalAggregation := some enabled } }
  | addGroupBy text => do
    let expression ← GroupBy.Expression.ofText text
    let part ← q.catalog.bind (.clause expression.name expression.params)
    q.committed (q.target.addClause part.record)
  | removeGroupByPart index => do
    Query.checkIndex .clause index q.target.groupBy.length
    q.committed (q.target.removeClause index)
  | addSelect => .ok q.withPipeline
  | removeSelect index => do
    q.checkPipeline index
    if 1 < q.projection.select.length then
      .ok (q.withSelect (q.projection.select.eraseIdx index))
    else .ok q
  | addSelectPart pipeline category type position => do
    q.checkPipeline pipeline
    let part ← q.catalog.bind (.select category type)
    return q.withSelect (q.projection.select.modify pipeline (Query.insertAt part position))
  | removeSelectPart pipeline part => do
    let found ← q.part pipeline part
    return q.withSelect
      (Query.selectWithout q.projection.select pipeline part found.definition.type)
  | updateSelectParam pipeline part param value => do
    let found ← q.part pipeline part
    let edited ← found.withParam param value
    return q.withSelect (q.projection.select.modify pipeline (·.set part edited))
  | updateProjection => do
    let projection ← Projection.bind q.catalog q.target
    return { q with projection }
  | updatePersistedParts => .ok q.persist

open Edit in
/-- Every command does to the query of a session what its outcome says. -/
theorem makes_outcome (command : Command) : command.edit.Makes (outcome · command) := by
  cases command with
  | setTarget target => exact makes_bind reads_query fun _ => Query.makes_commit _ _
  | setTags tags => exact makes_bind reads_query fun _ => makes_recorded _ _
  | setMeasurement measurement => exact makes_bind reads_query fun _ => makes_recorded _ _
  | setGlobalAggregation enabled => exact makes_bind reads_query fun _ => makes_recorded _ _
  | addGroupBy text =>
    exact makes_bind reads_query fun q => makes_bind (reads_require _ _) fun expression =>
      makes_bind (reads_counted (gives_tracked _ (q.catalog.gives_lookup _))) fun _ =>
        Query.makes_commit _ _
  | removeGroupByPart index =>
    exact makes_bind reads_query fun _ => makes_bind (reads_require _ _) fun _ =>
      Query.makes_commit _ _
  | addSelect => exact makes_bind reads_query fun _ => makes_recorded _ _
  | removeSelect index =>
    exact makes_bind reads_query fun _ => makes_bind (reads_require _ _) fun _ =>
      makes_ite (makes_recorded _ _) makes_pure
  | addSelectPart pipeline category type position =>
    exact makes_bind reads_query fun q => makes_bind (reads_require _ _) fun _ =>
      makes_bind (reads_counted (gives_tracked _ (q.catalog.gives_lookup _))) fun _ =>
        makes_recorded _ _
  | removeSelectPart pipeline part =>
    exact makes_bind reads_query fun _ => makes_bind (reads_require _ _) fun _ =>
      makes_recorded _ _
  | updateSelectParam pipeline part param value =>
    exact makes_bind reads_query fun _ => makes_bind (reads_require _ _) fun _ =>
      makes_bind (reads_require _ _) fun _ => makes_recorded _ _
  | updateProjection =>
    exact makes_bind reads_query fun _ =>
      makes_bind (reads_counted (gives_tracked _ (Projection.gives_ofTarget _ _))) fun _ =>
        makes_setQuery _
  | updatePersistedParts => exact makes_bind reads_query fun _ => makes_setQuery _

variable (command : Command) (s : Session)

theorem perform_fst : (command.perform s).1 = (command.outcome s.query).map fun _ => () :=
  (makes_outcome command s).1

theorem perform_query :
    (command.perform s).2.query = (command.outcome s.query).toOption.getD s.query :=
  (makes_outcome command s).2

/-- The session after a command that succeeds. -/
theorem perform_of_outcome {command : Command} {s : Session} {q' : Query}
    (hout : command.outcome s.query = .ok q') :
    (command.perform s).1 = .ok () ∧ (command.perform s).2.query = q' := by
  rw [perform_fst, perform_query, hout]
  exact ⟨rfl, rfl⟩

theorem exists_outcome_of_perform {command : Command} {s : Session}
    (hok : (command.perform s).1 = .ok ()) : ∃ q', command.outcome s.query = .ok q' := by
  rw [perform_fst] at hok
  cases hout : command.outcome s.query with
  | error e =>
    rw [hout] at hok
    cases hok
  | ok q' => exact ⟨q', rfl⟩

/-- What every successful command of a history preserves holds after the history, failures
included. -/
theorem performAll_invariant {P : Query → Prop} {s : Session} {commands : List Command}
    (hstep : ∀ command ∈ commands, ∀ {q q' : Query}, P q → command.outcome q = .ok q' → P q')
    (h : P s.query) : P (performAll s commands).query := by
  induction commands generalizing s with
  | nil => exact h
  | cons command rest ih =>
    obtain ⟨hcommand, hrest⟩ := List.forall_mem_cons.1 hstep
    refine ih hrest ?_
    rw [perform_query]
    cases hout : command.outcome s.query with
    | error e => exact h
    | ok q => exact hcommand h hout

end Command

end SeriesQuery
