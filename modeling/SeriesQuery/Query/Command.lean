import SeriesQuery.Query.Edit

/-! The edits of a query as data, so that a history of edits is a list. -/

namespace SeriesQuery

inductive Command
  | setTarget (target : Target)
  | setTags (tags : List Tag)
  | setMeasurement (measurement : String)
  | setGlobalAggregation (enabled : Bool)
  | addGroupBy (expression : String)
  | removeGroupByPart (index : Nat)
  | addSelect
  | removeSelect (index : Nat)
  | addSelectPart (pipeline : Nat) (category : Category) (type : String) (position : Nat)
  | removeSelectPart (pipeline part : Nat)
  | updateSelectParam (pipeline part param : Nat) (value : String)
  | updateProjection
  | updatePersistedParts

namespace Command

def edit : Command → Edit Unit
  | setTarget target => Query.setTarget target
  | setTags tags => Query.setTags tags
  | setMeasurement measurement => Query.setMeasurement measurement
  | setGlobalAggregation enabled => Query.setGlobalAggregation enabled
  | addGroupBy expression => Query.addGroupBy expression
  | removeGroupByPart index => Query.removeGroupByPart index
  | addSelect => Query.addSelect
  | removeSelect index => Query.removeSelect index
  | addSelectPart pipeline category type position =>
    Query.addSelectPart pipeline category type position
  | removeSelectPart pipeline part => Query.removeSelectPart pipeline part
  | updateSelectParam pipeline part param value => Query.updateSelectParam pipeline part param value
  | updateProjection => Query.updateProjection
  | updatePersistedParts => Query.updatePersistedParts

/-- The outcome of a command, and the session after it. -/
def perform (command : Command) (s : Session) : Except Error Unit × Session :=
  command.edit.eval s

/-- The session after a history of commands, of which some may have failed. -/
def performAll (s : Session) : List Command → Session
  | [] => s
  | command :: rest => performAll (command.perform s).2 rest

@[simp] theorem performAll_append (s : Session) (first second : List Command) :
    performAll s (first ++ second) = performAll (performAll s first) second := by
  induction first generalizing s with
  | nil => rfl
  | cons command rest ih => exact ih (command.perform s).2

end Command

end SeriesQuery
