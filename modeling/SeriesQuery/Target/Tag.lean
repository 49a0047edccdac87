import SeriesQuery.Json.Record

/-! Tag records of a query, each of them one condition on the tags, the key or the whole of a
series. -/

namespace SeriesQuery

structure Tag where
  key : String
  value : Option String := none
  operator : Option String := none
  type : Option String := none
  condition : Option String := none
deriving DecidableEq

namespace Tag

/-- The key of records that select series by their key. -/
def seriesKey : String := "$key"

/-- The type of records whose key is an expression of the backend's own language. -/
def customType : String := "custom"

def compare (key operator value : String) : Tag where
  key := key
  value := some value
  operator := some operator

def ofSeriesKey (value : String) : Tag :=
  compare seriesKey "=" value

def ofExpression (expression : String) : Tag where
  key := expression
  type := some customType

def isCustom (tag : Tag) : Bool :=
  tag.type == some customType

def isSeriesKey (tag : Tag) : Bool :=
  tag.key == seriesKey

def toJson (tag : Tag) : Json :=
  .object <|
    ("key", .string tag.key) :: Json.optional "value" .string tag.value ++
    Json.optional "operator" .string tag.operator ++ Json.optional "type" .string tag.type ++
    Json.optional "condition" .string tag.condition

def reader : Json.Reader Tag :=
  let text : Json.Reader String := .string
  (Json.Fields.required "key" text <| .optional "value" text <| .optional "operator" text <|
      .optional "type" text <| .optional "condition" text .done).reader.map
    fun (key, value, operator, type, condition, ()) => ⟨key, value, operator, type, condition⟩

end Tag

end SeriesQuery
