import SeriesQuery.Proofs.Query.Coherence
import SeriesQuery.Proofs.Target.Coding

/-!
Saving a query and making another one from what was saved. Only blanks of the target may come back
filled, and nothing that is computed from a query tells a blank from its default.
-/

namespace SeriesQuery

namespace Settings.Defaults

theorem orElse_orElse (text other : String) :
    orElse (orElse text other) other = orElse text other := by
  unfold orElse
  split <;> simp_all

theorem fill_select {target : Target} (d : Settings.Defaults) (h : target.select ≠ []) :
    (d.fill target).select = target.select := by
  simp [fill, h]

end Settings.Defaults

namespace Query

variable {q : Query}

def filled (q : Query) : Query :=
  { q with target := q.settings.defaults.fill q.target }

/-- The query that is created for the target of a coherent query has the parts that are there
already. -/
theorem Coherent.created_eq (h : q.Coherent) :
    created q.catalog q.context q.settings q.target = .ok q.filled := by
  have hbind : Projection.bind q.catalog (q.settings.defaults.fill q.target) =
      .ok q.projection := by
    -- The query has a pipeline, so that none is added, and parts are bound from nothing else.
    have hselect := Settings.Defaults.fill_select q.settings.defaults h.select_ne_nil
    refine Projection.bind_eq_ok_iff.2 ⟨?_, h.groupBy_binds⟩
    rw [hselect]
    exact h.select_binds
  exact bind_eq_ok_iff.2 ⟨_, hbind, rfl⟩

theorem filled_key (q : Query) : q.filled.key = q.key :=
  congrArg (q.context.replace (some "regex")) (Settings.Defaults.orElse_orElse _ _)

/-- A request depends on none of the fields that are filled. -/
theorem filled_requested (q : Query) (reading : IntervalReading) :
    q.filled.requested reading = q.requested reading := rfl

end Query

namespace Command

open Query

variable {q : Query}

/-- Saving and reloading cannot be noticed. Whatever commands were given to a query, the text of its
target is read back, and the query created for what was read has the same parts, the same key, and
the same request or error, with any template service and for every reading of interval literals. -/
theorem performAll_reload {catalog : Catalog} {context : Template.Context} {settings : Settings}
    {target : Target} {m : Metrics}
    (h : ((Query.create catalog context settings target).eval m).1 = .ok q)
    (commands : List Command) :
    let s := performAll ⟨q, ((Query.create catalog context settings target).eval m).2⟩ commands
    ∃ saved, Target.ofText s.query.target.text = .ok saved ∧
      ∀ m', ∃ reloaded,
        ((Query.create catalog context settings saved).eval m').1 = .ok reloaded ∧
        reloaded.projection = s.query.projection ∧
        reloaded.key = s.query.key ∧
        (∀ m₁ m₂, (reloaded.render.eval m₁).1 = (s.query.render.eval m₂).1) ∧
        ∀ reading m₁ m₂,
          ((reloaded.renderWith reading).eval m₁).1 = ((s.query.renderWith reading).eval m₂).1 := by
  intro s
  rw [gives_create] at h
  obtain ⟨hcoherent, -⟩ := performAll_coherent (s := ⟨q, _⟩) (created_coherent h) commands
  have halike : q.Alike s.query := performAll_alike ⟨q, _⟩ commands
  obtain ⟨rfl, rfl, rfl⟩ := created_configuration h
  have hrender : ∀ reading m₁ m₂, ((s.query.filled.renderWith reading).eval m₁).1 =
      ((s.query.renderWith reading).eval m₂).1 := by
    intro reading m₁ m₂
    rw [gives_renderWith, gives_renderWith, filled_requested]
  refine ⟨s.query.target, Target.ofText_text _, fun m' => ⟨s.query.filled, ?_, rfl, filled_key _,
    hrender _, hrender⟩⟩
  rw [gives_create, ← halike.catalog, ← halike.context, ← halike.settings]
  exact hcoherent.created_eq

/-- The measurement is blank when the query is saved, and a part of it was added without parameters.
-/
theorem performAll_blank_reload :
    let create := Query.create .standard ⟨.inert, .empty⟩ {}
    let made := create { groupBy := [] }
    let commands := [addSelectPart 0 .filters "topk" 0, setMeasurement ""]
    ∃ q, (made.eval {}).1 = .ok q ∧
      let s := performAll ⟨q, (made.eval {}).2⟩ commands
      ∃ saved reloaded, Target.ofText s.query.target.text = .ok saved ∧
        ((create saved).eval {}).1 = .ok reloaded ∧ reloaded.key = s.query.key := by
  intro create made commands
  have hmade : ∃ q, (made.eval {}).1 = .ok q := ⟨_, rfl⟩
  obtain ⟨q, hq⟩ := hmade
  obtain ⟨saved, hsaved, hreload⟩ := performAll_reload hq commands
  obtain ⟨reloaded, hreloaded, -, hkey, -⟩ := hreload {}
  exact ⟨q, hq, saved, reloaded, hsaved, hreloaded, hkey⟩

end Command

end SeriesQuery
