import SeriesQuery.Metrics

/-! The operations on queries, and computations that count while they run. -/

namespace SeriesQuery

/-- What errors and edits are counted under. -/
inductive Operation
  | create
  | updateProjection
  | setTarget
  | setTags
  | setMeasurement
  | setGlobalAggregation
  | addGroupBy
  | removeGroupByPart
  | addSelect
  | removeSelect
  | addSelectPart
  | removeSelectPart
  | updateSelectParam
  | buildFilter
  | render
deriving DecidableEq

def Operation.name : Operation → String
  | create => "create"
  | updateProjection => "update_projection"
  | setTarget => "set_target"
  | setTags => "set_tags"
  | setMeasurement => "set_measurement"
  | setGlobalAggregation => "set_global_aggregation"
  | addGroupBy => "add_group_by"
  | removeGroupByPart => "remove_group_by_part"
  | addSelect => "add_select"
  | removeSelect => "remove_select"
  | addSelectPart => "add_select_part"
  | removeSelectPart => "remove_select_part"
  | updateSelectParam => "update_select_param"
  | buildFilter => "build_filter"
  | render => "render"

/-- A computation that may fail, and that counts whether it fails or not. -/
abbrev Counted := ExceptT Error (StateM Metrics)

namespace Counted

variable {α : Type}

/-- Runs a computation; what it counted stays when it fails. -/
def eval (act : Counted α) (m : Metrics) : Except Error α × Metrics :=
  act.run.run m

def ofResult (result : Except Error α) : Counted α :=
  ExceptT.mk (pure result)

def count (record : Metrics → Metrics) : Counted Unit :=
  modify record

/-- Counts an error under an operation. -/
def tracked (operation : Operation) (act : Counted α) : Counted α :=
  tryCatch act fun e => do
    count (.recordError e.kind.name operation.name)
    throw e

variable {β : Type} {m : Metrics}

@[simp] theorem eval_pure (a : α) : eval (pure a) m = (.ok a, m) := rfl

@[simp] theorem eval_ofResult (result : Except Error α) :
    eval (ofResult result) m = (result, m) := rfl

@[simp] theorem eval_count (record : Metrics → Metrics) :
    eval (count record) m = (.ok (), record m) := rfl

theorem eval_bind (act : Counted α) (next : α → Counted β) :
    eval (act >>= next) m =
      match eval act m with
      | (.ok a, m) => eval (next a) m
      | (.error e, m) => (.error e, m) := by
  change (ExceptT.bindCont next (eval act m).1 (eval act m).2) = _
  rcases eval act m with ⟨_ | _, _⟩ <;> rfl

/-- An error is counted once and passed on; anything else goes on as it is. -/
theorem eval_tracked (operation : Operation) (act : Counted α) :
    eval (tracked operation act) m =
      match eval act m with
      | (.ok a, m) => (.ok a, m)
      | (.error e, m) => (.error e, m.recordError e.kind.name operation.name) := by
  rcases h : eval act m with ⟨e | a, m'⟩ <;>
    simp only [eval, ExceptT.run, StateT.run] at h <;>
    simp [eval, tracked, tryCatch, tryCatchThe, MonadExceptOf.tryCatch, ExceptT.tryCatch,
      ExceptT.run, ExceptT.mk, StateT.run, bind, StateT.bind, h] <;> rfl

end Counted

end SeriesQuery
