import SeriesQuery.GroupBy.Basic
import SeriesQuery.Query.Basic

/-!
Edits of a query. Changes of the whole target are tried on a candidate whose parts are bound anew;
changes of the pipelines are made on the parts and written back into the records.
-/

namespace SeriesQuery

/-- A query under edit, and what has been counted so far. -/
structure Session where
  query : Query
  metrics : Metrics

/-- An edit, which may fail. -/
abbrev Edit := ExceptT Error (StateM Session)

namespace Edit

variable {α : Type}

def eval (edit : Edit α) (s : Session) : Except Error α × Session :=
  edit.run.run s

def query : Edit Query := do
  return (← get).query

def setQuery (q : Query) : Edit Unit :=
  modify fun s => { s with query := q }

def counted (act : Counted α) : Edit α :=
  ExceptT.mk fun s =>
    let (result, metrics) := act.eval s.metrics
    (result, { s with metrics })

def recordEdit (operation : Operation) : Edit Unit :=
  counted (Counted.count (.recordEdit operation.name))

/-- The result of something that may fail, with its error counted. -/
def require (operation : Operation) (result : Except Error α) : Edit α :=
  counted (Counted.tracked operation (.ofResult result))

variable {β : Type} {s : Session}

@[simp] theorem eval_pure (a : α) : eval (pure a) s = (.ok a, s) := rfl

@[simp] theorem eval_query : eval query s = (.ok s.query, s) := rfl

@[simp] theorem eval_setQuery (q : Query) :
    eval (setQuery q) s = (.ok (), { s with query := q }) := rfl

@[simp] theorem eval_counted (act : Counted α) :
    eval (counted act) s =
      ((act.eval s.metrics).1, { s with metrics := (act.eval s.metrics).2 }) := rfl

@[simp] theorem eval_recordEdit (operation : Operation) :
    eval (recordEdit operation) s =
      (.ok (), { s with metrics := s.metrics.recordEdit operation.name }) := rfl

theorem eval_bind (act : Edit α) (next : α → Edit β) :
    eval (act >>= next) s =
      match eval act s with
      | (.ok a, s) => eval (next a) s
      | (.error e, s) => (.error e, s) := by
  change (ExceptT.bindCont next (eval act s).1 (eval act s).2) = _
  rcases eval act s with ⟨_ | _, _⟩ <;> rfl

end Edit

namespace Query

open Edit

def checkIndex (what : Indexed) (index length : Nat) : Except Error Unit :=
  if index < length then .ok () else .error (.invalidIndex what index length)

def checkPipeline (q : Query) (pipeline : Nat) : Except Error Unit :=
  checkIndex .pipeline pipeline q.projection.select.length

def part (q : Query) (pipeline part : Nat) : Except Error Part := do
  q.checkPipeline pipeline
  let parts := q.projection.select[pipeline]?.getD []
  match parts[part]? with
  | some found => .ok found
  | none => .error (.invalidIndex .part part parts.length)

/-- Writes the parts of the pipelines back into the target. -/
def persist (q : Query) : Query :=
  { q with target := { q.target with select := q.savedSelect } }

/-- Gives the query other pipelines, and their records to the target. -/
def withSelect (q : Query) (select : List (List Part)) : Query :=
  persist { q with projection := { q.projection with select } }

/-- Replaces the target by a candidate, provided that all its parts have definitions. -/
def commit (operation : Operation) (candidate : Target) : Edit Unit := do
  let q ← query
  let projection ← counted (Counted.tracked operation (Projection.ofTarget q.catalog candidate))
  setQuery { q with target := candidate, projection }
  recordEdit operation

def setTarget (target : Target) : Edit Unit := do
  let q ← query
  commit .setTarget (q.settings.defaults.fill target)

def setTags (tags : List Tag) : Edit Unit := do
  let q ← query
  setQuery { q with target := { q.target with tags } }
  recordEdit .setTags

def setMeasurement (measurement : String) : Edit Unit := do
  let q ← query
  setQuery { q with target := { q.target with measurement } }
  recordEdit .setMeasurement

def setGlobalAggregation (enabled : Bool) : Edit Unit := do
  let q ← query
  setQuery { q with target := { q.target with globalAggregation := some enabled } }
  recordEdit .setGlobalAggregation

/-- Binds the parts of the target anew. -/
def updateProjection : Edit Unit := do
  let q ← query
  let projection ←
    counted (Counted.tracked .updateProjection (Projection.ofTarget q.catalog q.target))
  setQuery { q with projection }

def updatePersistedParts : Edit Unit := do
  let q ← query
  setQuery q.persist

/-- Adds a clause written as an expression. -/
def addGroupBy (text : String) : Edit Unit := do
  let q ← query
  let expression ← require .addGroupBy (GroupBy.Expression.ofText text)
  let part ← counted <|
    Counted.tracked .addGroupBy (q.catalog.lookup (.clause expression.name expression.params))
  commit .addGroupBy (q.target.addClause part.record)

/-- Removes a clause, and with `time` all that depends on it. -/
def removeGroupByPart (index : Nat) : Edit Unit := do
  let q ← query
  require .removeGroupByPart (checkIndex .clause index q.target.groupBy.length)
  commit .removeGroupByPart (q.target.removeClause index)

def addSelect : Edit Unit := do
  let q ← query
  setQuery { q with
    target := { q.target with select := q.target.select ++ [[]] }
    projection := { q.projection with select := q.projection.select ++ [[]] } }
  recordEdit .addSelect

/-- Removes a pipeline unless it is the only one. -/
def removeSelect (index : Nat) : Edit Unit := do
  let q ← query
  require .removeSelect (q.checkPipeline index)
  if 1 < q.projection.select.length then
    setQuery (q.withSelect (q.projection.select.eraseIdx index))
    recordEdit .removeSelect

/-- Puts an item into a list at a position; positions behind the end stand for the end. -/
def insertAt {α : Type} (item : α) (position : Nat) (items : List α) : List α :=
  items.take position ++ item :: items.drop position

def addSelectPart (pipeline : Nat) (category : Category) (type : String) (position : Nat) :
    Edit Unit := do
  let q ← query
  require .addSelectPart (q.checkPipeline pipeline)
  let part ← counted (Counted.tracked .addSelectPart (q.catalog.lookup (.select category type)))
  setQuery (q.withSelect (q.projection.select.modify pipeline (insertAt part position)))
  recordEdit .addSelectPart

/-- The type of the part that stands for its whole pipeline. -/
def fieldType : String := "field"

/-- The pipelines without a part. With the part that stands for its pipeline the pipeline goes,
unless it is the only one. -/
def selectWithout (select : List (List Part)) (pipeline part : Nat) (type : String) :
    List (List Part) :=
  if type = fieldType then
    if 1 < select.length then select.eraseIdx pipeline else select
  else select.modify pipeline (·.eraseIdx part)

def removeSelectPart (pipeline part : Nat) : Edit Unit := do
  let q ← query
  let found ← require .removeSelectPart (q.part pipeline part)
  setQuery (q.withSelect (selectWithout q.projection.select pipeline part found.definition.type))
  recordEdit .removeSelectPart

def updateSelectParam (pipeline part param : Nat) (value : String) : Edit Unit := do
  let q ← query
  let found ← require .updateSelectParam (q.part pipeline part)
  let edited ← require .updateSelectParam (found.withParam param value)
  setQuery (q.withSelect (q.projection.select.modify pipeline (·.set part edited)))
  recordEdit .updateSelectParam

end Query

end SeriesQuery
