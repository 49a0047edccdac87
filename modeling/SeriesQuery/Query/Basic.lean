import SeriesQuery.Catalog.Basic
import SeriesQuery.Query.Operation
import SeriesQuery.Settings.Basic
import SeriesQuery.Template.Service

/-! Queries: a saved target together with the parts that its records are bound to. -/

namespace SeriesQuery

/-- Binds a saved part, and counts whether its definition was found. -/
def Catalog.lookup (catalog : Catalog) (saved : SavedPart) : Counted Part := do
  Counted.count (.recordLookup (catalog.resolve? saved).isSome)
  Counted.ofResult (catalog.bind saved)

structure Projection where
  select : List (List Part)
  groupBy : List Part

namespace Projection

/-- Binds the parts of all pipelines, then those of all clauses, up to the first without a
definition. -/
def ofTarget (catalog : Catalog) (target : Target) : Counted Projection := do
  let select ← target.select.mapM fun pipeline => pipeline.mapM catalog.lookup
  let groupBy ← target.groupBy.mapM catalog.lookup
  return ⟨select, groupBy⟩

end Projection

structure Query where
  target : Target
  catalog : Catalog
  context : Template.Context
  settings : Settings
  projection : Projection

namespace Query

/-- A query for a target, once the target's blanks are filled. -/
def create (catalog : Catalog) (context : Template.Context) (settings : Settings)
    (target : Target) :
    Counted Query := do
  let target := settings.defaults.fill target
  let projection ← Counted.tracked .create (Projection.ofTarget catalog target)
  return ⟨target, catalog, context, settings, projection⟩

/-- The measurement with its variables as regular expressions. -/
def key (q : Query) : String :=
  q.context.replace (some "regex")
    (Settings.Defaults.orElse q.target.measurement q.settings.defaults.measurement)

def savedSelect (q : Query) : List (List SavedPart) :=
  q.projection.select.map (·.map Part.saved)

end Query

end SeriesQuery
