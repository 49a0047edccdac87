import SeriesQuery.Target.SavedPart
import SeriesQuery.Target.Tag

/-! Saved queries. -/

namespace SeriesQuery

structure Target where
  refId : Option String := none
  measurement : String := "measurement"
  resultFormat : String := "time_series"
  orderByTime : String := "ASC"
  tags : List Tag := []
  groupBy : List SavedPart := [.clause SavedPart.timeType (some ["1m"])]
  /-- Pipelines of parts, of which the first is rendered. -/
  select : List (List SavedPart) := [[]]
  /-- Aggregation is distributed unless this is false. -/
  globalAggregation : Option Bool := none
  /-- The name under which the series are shown. -/
  seriesName : Option String := none
  hide : Option Bool := none
deriving DecidableEq

namespace Target

instance : Inhabited Target := ⟨{}⟩

def isDistributed (target : Target) : Bool :=
  target.globalAggregation != some false

def toJson (target : Target) : Json :=
  .object <|
    Json.optional "refId" .string target.refId ++
    [("measurement", .string target.measurement), ("resultFormat", .string target.resultFormat),
      ("orderByTime", .string target.orderByTime), ("tags", .array (target.tags.map Tag.toJson)),
      ("groupBy", .array (target.groupBy.map SavedPart.toJson)),
      ("select", .array (target.select.map fun pipeline =>
        .array (pipeline.map SavedPart.toJson)))] ++
    Json.optional "globalAggregation" .bool target.globalAggregation ++
    Json.optional "alias" .string target.seriesName ++ Json.optional "hide" .bool target.hide

def reader : Json.Reader Target :=
  let absent : Target := {}
  let text : Json.Reader String := .string
  (Json.Fields.optional "refId" text <|
      .defaulted "measurement" text absent.measurement <|
      .defaulted "resultFormat" text absent.resultFormat <|
      .defaulted "orderByTime" text absent.orderByTime <|
      .defaulted "tags" (.list Tag.reader) absent.tags <|
      .defaulted "groupBy" (.list SavedPart.reader) absent.groupBy <|
      .defaulted "select" (.list (.list SavedPart.reader)) absent.select <|
      .optional "globalAggregation" .bool <|
      .optional "alias" text <|
      .optional "hide" .bool .done).reader.map
    fun (refId, measurement, resultFormat, orderByTime, tags, groupBy, select, globalAggregation,
        seriesName, hide, ()) =>
      { refId, measurement, resultFormat, orderByTime, tags, groupBy, select, globalAggregation,
        seriesName, hide }

def ofText (text : String) : Except Refusal Target :=
  reader.run text

def text (target : Target) : String :=
  target.toJson.text

end Target

end SeriesQuery
