import SeriesQuery.Aggregator.Basic
import SeriesQuery.Catalog.Definition
import SeriesQuery.Error
import SeriesQuery.Target.SavedPart

/-! Parts bound to their definitions. A part always has parameters, those of its definition if none
were saved. -/

namespace SeriesQuery

structure Part where
  definition : Definition
  params : List String
  /-- The record that the part was bound from, with the parameters it has now. -/
  record : SavedPart

namespace Part

/-- Parts are the same when definition and parameters are. -/
def same (a b : Part) : Bool :=
  a.definition == b.definition && a.params == b.params

def bind (d : Definition) (saved : SavedPart) : Part :=
  let params := saved.params.getD d.defaultParams
  ⟨d, params, { saved with params := some params }⟩

def saved (part : Part) : SavedPart :=
  ⟨part.definition.type, some part.params, .ofCategory part.definition.category⟩

def callText (name : String) (arguments : List String) : String :=
  name ++ "(" ++ String.intercalate ", " arguments ++ ")"

def text (part : Part) : String :=
  callText part.definition.type part.params

/-- Puts a value into a slot, behind the last one if the slot is not there. An empty value takes the
slot of an optional parameter away. -/
def setSlot (d : Definition) (index : Nat) (value : String) (params : List String) : List String :=
  if value.isEmpty && d.isOptional index then params.eraseIdx index
  else if index < params.length then params.set index value
  else params ++ [value]

def setSlots (d : Definition) (index : Nat) : List String → List String → List String
  | [], params => params
  | value :: rest, params => setSlots d (index + 1) rest (setSlot d index value params)

/-- The values that an edit of a slot gives: a list with commas goes on into the next slot if that
one is optional. -/
def spill (d : Definition) (index : Nat) (value : String) : List String :=
  if value.toList.contains ',' && d.isOptional (index + 1) then
    (value.toList.splitOn ',').map fun piece => .ofList (Text.trimmed piece)
  else [value]

/-- The part with another value in a slot that it has, or in the one after its last. -/
def withParam (part : Part) (index : Nat) (value : String) : Except Error Part :=
  if part.params.length < index then .error (.invalidIndex .param index part.params.length)
  else
    let params := setSlots part.definition index (spill part.definition index value) part.params
    .ok { part with params, record := { part.record with params := some params } }

def int64? (cs : List Char) : Option Int64 :=
  let (negative, digits) :=
    match cs with
    | '-' :: digits => (true, digits)
    | '+' :: digits => (false, digits)
    | digits => (false, digits)
  if digits.isEmpty || !digits.all Char.isDigit then none
  else
    let value : Int := if negative then -ofDigits digits else ofDigits digits
    if -0x8000000000000000 ≤ value ∧ value < 0x8000000000000000 then some (.ofInt value) else none

/-- What an argument of a function is written as; an automatic interval is left to the dashboard. -/
def argument (d : Definition) (index : Nat) (value : String) : String :=
  if d.isTime index && value == "auto" then "$__interval" else value

/-- The part as it goes into a request. A function may stand around an expression, and an
aggregation takes the size of its window. -/
def render (part : Part) (inner : Option String) (interval : Option Binary64) :
    Except Error RenderedPart :=
  match part.definition.renderer with
  | .aggregate kind defaultTags =>
    let tags := part.params.filter (!Text.isBlankText ·)
    .ok (.aggregator (.single kind (if tags.isEmpty then defaultTags else some tags) interval))
  | .filter kind =>
    let raw := part.params.headD ""
    match int64? (Text.trimmed raw.toList) with
    | some k => .ok (.aggregator (.filter kind k .empty))
    | none => .error (.invalidParam part.definition.type 0 raw)
  | .function =>
    let inner := (inner.filter (!·.isEmpty)).toList
    .ok (.expression (callText part.definition.type
      (inner ++ part.params.mapIdx (argument part.definition))))

end Part

end SeriesQuery
