import SeriesQuery.Proofs.Metrics.Gauge
import SeriesQuery.Proofs.Query.Outcome

/-!
What computations count, by their results. Every computation adds to a gauge a fixed number if it
succeeds and otherwise a number that its error decides, whatever was counted before; an edit that
fails has been counted as an error once, under its own operation.
-/

namespace SeriesQuery

/-- One number for any value, another for each error. -/
@[simp] def worth {α : Type} (success : Nat) (failure : Error → Nat) : Except Error α → Nat
  | .ok _ => success
  | .error e => failure e

namespace Counted

variable {α β : Type} {g : Gauge} {success : Nat} {failure : Error → Nat} {act : Counted α}

/-- A computation adds to a gauge what its result is worth. -/
def Adds (g : Gauge) (success : Nat) (failure : Error → Nat) (act : Counted α) : Prop :=
  ∀ m, g.read (act.eval m).2 = g.read m + worth success failure (act.eval m).1

theorem adds_pure (a : α) : Adds g 0 failure (pure a) := fun _ => rfl

theorem adds_ofResult {result : Except Error α} (h : ∀ e, result = .error e → failure e = 0) :
    Adds g 0 failure (ofResult result) := by
  intro m
  cases result with
  | ok a => rfl
  | error e => simp [h e rfl]

theorem adds_bind {next : α → Counted β} (hact : act.Adds g 0 failure)
    (hnext : ∀ a, (next a).Adds g success failure) : (act >>= next).Adds g success failure := by
  intro m
  have hm := hact m
  rw [eval_bind]
  rcases h : act.eval m with ⟨e | a, m'⟩ <;> rw [h] at hm
  · exact hm
  · have hsame : g.read m' = g.read m := hm
    exact hsame ▸ hnext a m'

theorem adds_mapM {f : α → Counted β} (h : ∀ a, (f a).Adds g 0 failure) (xs : List α) :
    (xs.mapM f).Adds g 0 failure := by
  induction xs with
  | nil => exact adds_pure []
  | cons x xs ih =>
    simp only [List.mapM_cons]
    exact adds_bind (h x) fun b => adds_bind ih fun bs => adds_pure (b :: bs)

theorem adds_tracked (operation : Operation) (h : act.Adds g success failure) :
    (tracked operation act).Adds g success fun e => failure e + g.error e.kind operation := by
  intro m
  have hm := h m
  rw [eval_tracked]
  rcases hact : act.eval m with ⟨e | a, m'⟩ <;> rw [hact] at hm
  · simp only [worth] at hm ⊢
    rw [g.read_recordError, hm, Nat.add_assoc]
  · exact hm

end Counted

open Counted

variable {g : Gauge}

theorem Catalog.adds_lookup (catalog : Catalog) (saved : SavedPart) :
    (catalog.lookup saved).Adds g 0 g.lost := by
  intro m
  have hlookup : (catalog.lookup saved).eval m =
      (catalog.bind saved, m.recordLookup (catalog.resolve? saved).isSome) := by
    rw [lookup, eval_bind]
    rfl
  rw [hlookup, g.read_recordLookup, Catalog.bind]
  cases catalog.resolve? saved <;> rfl

theorem Projection.adds_ofTarget (catalog : Catalog) (target : Target) :
    (Projection.ofTarget catalog target).Adds g 0 g.lost :=
  adds_bind (adds_mapM (fun pipeline => adds_mapM catalog.adds_lookup pipeline) _)
    fun _ => adds_bind (adds_mapM catalog.adds_lookup _) fun _ => adds_pure _

namespace Query

/-- Creating a query counts nothing but an error. -/
theorem adds_create (catalog : Catalog) (context : Template.Context) (settings : Settings)
    (target : Target) :
    (create catalog context settings target).Adds g 0 (g.failure (some .create)) :=
  adds_bind (adds_tracked _ (Projection.adds_ofTarget _ _)) fun _ => adds_pure _

end Query

/-- A result that is not the error that a definition is missing. -/
def KnowsParts {α : Type} (result : Except Error α) : Prop :=
  ∀ e, result = .error e → e.kind ≠ .partNotFound

section

variable {α β : Type} {result : Except Error α}

theorem knowsParts_ok (a : α) : KnowsParts (.ok a : Except Error α) := nofun

theorem knowsParts_error {e : Error} (h : e.kind ≠ .partNotFound) :
    KnowsParts (.error e : Except Error α) := by
  rintro _ ⟨⟩
  exact h

theorem knowsParts_bind {next : α → Except Error β} (h : KnowsParts result)
    (hnext : ∀ a, KnowsParts (next a)) : KnowsParts (result >>= next) := by
  cases result with
  | error e => exact knowsParts_error (h e rfl)
  | ok a => exact hnext a

theorem knowsParts_mapM {f : α → Except Error β} (h : ∀ a, KnowsParts (f a)) (xs : List α) :
    KnowsParts (xs.mapM f) := by
  induction xs with
  | nil => exact knowsParts_ok []
  | cons x xs ih =>
    simp only [List.mapM_cons]
    exact knowsParts_bind (h x) fun b => knowsParts_bind ih fun bs => knowsParts_ok (b :: bs)

theorem knowsParts_mapError {ε : Type} {x : Except ε α} {f : ε → Error}
    (h : ∀ e, (f e).kind ≠ .partNotFound) : KnowsParts (x.mapError f) := by
  cases x with
  | error e => exact knowsParts_error (h e)
  | ok a => exact knowsParts_ok a

theorem KnowsParts.lost_eq_zero (h : KnowsParts result) {e : Error} (he : result = .error e) :
    g.lost e = 0 :=
  if_neg (h e he)

end

theorem GroupBy.Expression.knowsParts_ofText (text : String) :
    KnowsParts (GroupBy.Expression.ofText text) := by
  unfold ofText
  split
  · exact knowsParts_ok _
  · exact knowsParts_error nofun

namespace Part

theorem knowsParts_withParam (part : Part) (index : Nat) (value : String) :
    KnowsParts (part.withParam index value) := by
  unfold withParam
  split
  · exact knowsParts_error nofun
  · exact knowsParts_ok _

theorem knowsParts_render (part : Part) (inner : Option String) (interval : Option Binary64) :
    KnowsParts (part.render inner interval) := by
  unfold render
  split
  · exact knowsParts_ok _
  · dsimp only
    split
    · exact knowsParts_ok _
    · exact knowsParts_error nofun
  · exact knowsParts_ok _

end Part

namespace Query

theorem knowsParts_checkIndex (what : Indexed) (index length : Nat) :
    KnowsParts (checkIndex what index length) := by
  unfold checkIndex
  split
  · exact knowsParts_ok _
  · exact knowsParts_error nofun

variable (q : Query)

theorem knowsParts_part (pipeline part : Nat) : KnowsParts (q.part pipeline part) := by
  refine knowsParts_bind (knowsParts_checkIndex _ _ _) fun _ => ?_
  dsimp only
  split
  · exact knowsParts_ok _
  · exact knowsParts_error nofun

theorem knowsParts_resolved {α : Type} (encode : α → Json) (reader : Json.Reader α) (value : α) :
    KnowsParts (q.resolved encode reader value) :=
  knowsParts_mapError nofun

theorem knowsParts_samplingInterval (reading : IntervalReading) :
    KnowsParts (q.samplingInterval reading) := by
  unfold samplingInterval
  split
  · exact knowsParts_ok _
  · split
    · refine knowsParts_bind (q.knowsParts_resolved _ _ _) fun saved => ?_
      split
      · exact knowsParts_mapError nofun
      · exact knowsParts_error nofun
    · exact knowsParts_ok _

theorem knowsParts_renderedPipeline : KnowsParts q.renderedPipeline := by
  unfold renderedPipeline
  dsimp only
  split
  · split
    · exact knowsParts_error nofun
    · exact knowsParts_ok _
  · exact knowsParts_ok _

/-- Rendering looks no definition up, since the parts of a query are bound. -/
theorem knowsParts_requested (reading : IntervalReading) : KnowsParts (q.requested reading) := by
  have haggregators : KnowsParts (q.aggregators reading) :=
    knowsParts_bind (q.knowsParts_samplingInterval _) fun interval =>
      knowsParts_bind q.knowsParts_renderedPipeline fun pipeline =>
        knowsParts_bind (knowsParts_mapM (fun part => part.knowsParts_render none interval) _)
          fun _ => q.knowsParts_resolved _ _ _
  exact knowsParts_bind (q.knowsParts_resolved _ _ _) fun _ =>
    knowsParts_bind haggregators fun _ => knowsParts_ok _

theorem adds_buildFilter (tags : List Tag) :
    (q.buildFilter tags).Adds g 0 (g.failure (some .buildFilter)) :=
  adds_tracked _ (adds_ofResult fun _ he => (q.knowsParts_resolved _ _ _).lost_eq_zero he)

/-- A request counts what its filter counts, and nothing else. -/
theorem read_request (reading : IntervalReading) (m : Metrics) :
    g.read ((q.request reading).eval m).2 =
      g.read m + worth 0 (g.failure (some .buildFilter)) (q.builtFilter q.target.tags) := by
  have hadds := q.adds_buildFilter (g := g) q.target.tags m
  rw [q.gives_buildFilter q.target.tags m] at hadds
  rw [request, eval_bind, ← hadds]
  rcases (q.buildFilter q.target.tags).eval m with ⟨e | filter, m'⟩
  · rfl
  · dsimp only
    rw [eval_bind]
    cases q.aggregators reading <;> rfl

/-- A render counts its error, the error of its filter apart from it, and its outcome. -/
theorem read_renderWith (reading : IntervalReading) (m : Metrics) :
    g.read ((q.renderWith reading).eval m).2 =
      g.read m + (worth 0 (g.failure (some .render)) ((q.renderWith reading).eval m).1 +
        (worth 0 (g.failure (some .buildFilter)) (q.builtFilter q.target.tags) +
          worth (g.render true) (fun _ => g.render false) ((q.renderWith reading).eval m).1)) := by
  have hrun : (q.renderWith reading).eval m =
      (((tracked .render (q.request reading)).eval m).1,
        ((tracked .render (q.request reading)).eval m).2.recordRender
          ((tracked .render (q.request reading)).eval m).1.isOk) := rfl
  -- An error of the request is counted once more, under the render, but never as a missing part.
  have hknows : KnowsParts ((tracked .render (q.request reading)).eval m).1 :=
    q.gives_renderWith reading m ▸ q.knowsParts_requested reading
  rw [hrun, g.read_recordRender, Nat.add_left_comm, ← Nat.add_assoc (g.read m),
    ← q.read_request reading]
  rw [eval_tracked] at hknows ⊢
  rcases h : (q.request reading).eval m with ⟨e | request, m'⟩ <;> rw [h] at hknows
  · have hlost : g.lost e = 0 := hknows.lost_eq_zero rfl
    have hfailure : g.failure (some .render) e = g.error e.kind .render := by
      simp [Gauge.failure, hlost]
    simp only [worth, hfailure, g.read_recordError, Except.isOk, Except.toBool]
    omega
  · simp [Except.isOk, Except.toBool]

end Query

namespace Edit

variable {α β : Type} {success : Nat} {failure : Error → Nat} {edit : Edit α} {s : Session}

/-- An edit adds to a gauge what its answer is worth. -/
def Adds (g : Gauge) (success : Nat) (failure : Error → Nat) (edit : Edit α) : Prop :=
  ∀ s, g.read (edit.eval s).2.metrics = g.read s.metrics + worth success failure (edit.eval s).1

theorem adds_query : Adds g 0 failure query := fun _ => rfl

theorem adds_setQuery (q : Query) : Adds g 0 failure (setQuery q) := fun _ => rfl

theorem adds_pure (a : α) : Adds g 0 failure (pure a) := fun _ => rfl

theorem adds_recordEdit (operation : Operation) :
    Adds g (g.edit operation) failure (recordEdit operation) :=
  fun s => g.read_recordEdit operation s.metrics

theorem adds_counted {act : Counted α} (h : act.Adds g success failure) :
    (counted act).Adds g success failure :=
  fun s => h s.metrics

theorem adds_bind {next : α → Edit β} (hedit : edit.Adds g 0 failure)
    (hnext : ∀ a, (next a).Adds g success failure) : (edit >>= next).Adds g success failure := by
  intro s
  have hs := hedit s
  rw [eval_bind]
  rcases h : edit.eval s with ⟨e | a, s'⟩ <;> rw [h] at hs
  · exact hs
  · have hsame : g.read s'.metrics = g.read s.metrics := hs
    exact hsame ▸ hnext a s'

/-- What follows a check is counted as if the check had been met. -/
theorem adds_require {operation : Operation} {result : Except Error α} (h : KnowsParts result)
    {next : α → Edit β}
    (hnext : ∀ a, result = .ok a → (next a).Adds g success (g.failure (some operation))) :
    (require operation result >>= next).Adds g success (g.failure (some operation)) := by
  have hcheck : (require operation result).Adds g 0 (g.failure (some operation)) :=
    adds_counted (adds_tracked _ (adds_ofResult fun _ => h.lost_eq_zero))
  cases result with
  | error e =>
    intro s
    have hs := hcheck s
    have hfails : (require operation (.error e) >>= next).eval s =
        (.error e, ((require operation (.error e : Except Error α)).eval s).2) := by
      rw [eval_bind]
      rfl
    rw [hfails]
    exact hs
  | ok a =>
    intro s
    have hpasses : (require operation (.ok a) >>= next).eval s = (next a).eval s := by
      rw [eval_bind]
      rfl
    rw [hpasses]
    exact hnext a rfl s

theorem adds_recorded (operation : Operation) (q : Query) :
    (do setQuery q; recordEdit operation).Adds g (g.edit operation) failure :=
  adds_bind (adds_setQuery q) fun _ => adds_recordEdit operation

/-- An edit that begins with the query of the session. -/
theorem read_withQuery {next : Query → Edit α} (h : (next s.query).Adds g success failure) :
    g.read ((query >>= next).eval s).2.metrics =
      g.read s.metrics + worth success failure ((query >>= next).eval s).1 := by
  rw [eval_bind, eval_query]
  exact h s

end Edit

open Edit in
theorem Query.adds_commit (operation : Operation) (candidate : Target) :
    (commit operation candidate).Adds g (g.edit operation) (g.failure (some operation)) :=
  adds_bind adds_query fun _ =>
    adds_bind (adds_counted (adds_tracked _ (Projection.adds_ofTarget _ _)))
      fun _ => adds_recorded _ _

namespace Command

/-- What a command is counted under; writing the parts back is not counted. -/
def operation? : Command → Option Operation
  | setTarget _ => some .setTarget
  | setTags _ => some .setTags
  | setMeasurement _ => some .setMeasurement
  | setGlobalAggregation _ => some .setGlobalAggregation
  | addGroupBy _ => some .addGroupBy
  | removeGroupByPart _ => some .removeGroupByPart
  | addSelect => some .addSelect
  | removeSelect _ => some .removeSelect
  | addSelectPart .. => some .addSelectPart
  | removeSelectPart .. => some .removeSelectPart
  | updateSelectParam .. => some .updateSelectParam
  | updateProjection => some .updateProjection
  | updatePersistedParts => none

/-- The command asks for the removal of the only pipeline, which then stays. -/
def sparesPipeline (q : Query) : Command → Bool
  | removeSelect _ => q.projection.select.length == 1
  | _ => false

end Command

namespace Operation

/-- The operations that are counted as edits. Binding the parts anew changes no target. -/
def isEdit : Operation → Bool
  | create | updateProjection | buildFilter | render => false
  | _ => true

end Operation

namespace Command

/-- The edit that a command is counted as when it succeeds. -/
def edited? (q : Query) (command : Command) : Option Operation :=
  if command.sparesPipeline q then none else command.operation?.filter Operation.isEdit

open Edit in
/-- A command that succeeds is counted as an edit, unless it leaves everything as it is; one that
fails is counted as an error. -/
theorem read_perform (command : Command) (s : Session) :
    g.read (command.perform s).2.metrics =
      g.read s.metrics + worth ((command.edited? s.query).elim 0 g.edit)
        (g.failure command.operation?) (command.perform s).1 := by
  cases command with
  | setTarget target => exact read_withQuery (Query.adds_commit _ _)
  | setTags tags => exact g.read_recordEdit .setTags s.metrics
  | setMeasurement measurement => exact g.read_recordEdit .setMeasurement s.metrics
  | setGlobalAggregation enabled => exact g.read_recordEdit .setGlobalAggregation s.metrics
  | addGroupBy text =>
    exact read_withQuery <| adds_require (GroupBy.Expression.knowsParts_ofText text) fun _ _ =>
      adds_bind (adds_counted (adds_tracked _ (Catalog.adds_lookup _ _))) fun _ =>
        Query.adds_commit _ _
  | removeGroupByPart index =>
    exact read_withQuery <| adds_require (Query.knowsParts_checkIndex _ _ _) fun _ _ =>
      Query.adds_commit _ _
  | addSelect => exact g.read_recordEdit .addSelect s.metrics
  | removeSelect index =>
    refine read_withQuery <| adds_require (Query.knowsParts_checkIndex _ _ _) fun _ hindex => ?_
    -- The check has passed, so that there is a pipeline, and one that stays is the only one.
    have hlt : index < s.query.projection.select.length := Query.checkIndex_eq_ok_iff.1 hindex
    split
    next hseveral =>
      have hne : s.query.projection.select.length ≠ 1 := by omega
      have hedited : (removeSelect index).edited? s.query = some .removeSelect := by
        simp only [edited?, sparesPipeline, beq_eq_false_iff_ne.2 hne]
        rfl
      rw [hedited]
      exact adds_recorded _ _
    next honly =>
      have hone : s.query.projection.select.length = 1 := by omega
      have hedited : (removeSelect index).edited? s.query = none := by
        simp [edited?, sparesPipeline, hone]
      rw [hedited]
      exact adds_pure _
  | addSelectPart pipeline category type position =>
    exact read_withQuery <| adds_require (Query.knowsParts_checkIndex _ _ _) fun _ _ =>
      adds_bind (adds_counted (adds_tracked _ (Catalog.adds_lookup _ _))) fun _ =>
        adds_recorded _ _
  | removeSelectPart pipeline part =>
    exact read_withQuery <| adds_require (s.query.knowsParts_part _ _) fun _ _ => adds_recorded _ _
  | updateSelectParam pipeline part param value =>
    exact read_withQuery <| adds_require (s.query.knowsParts_part _ _) fun found _ =>
      adds_require (found.knowsParts_withParam _ _) fun _ _ => adds_recorded _ _
  | updateProjection =>
    exact read_withQuery <|
      adds_bind (adds_counted (adds_tracked _ (Projection.adds_ofTarget _ _))) fun _ =>
        adds_setQuery _
  | updatePersistedParts => rfl

end Command

end SeriesQuery
