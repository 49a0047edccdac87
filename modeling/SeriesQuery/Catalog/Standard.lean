import SeriesQuery.Catalog.Basic

/-! The catalog of everything that the backend offers. -/

namespace SeriesQuery.Catalog

def intervalOptions : List String :=
  ["$__interval", "1s", "2s", "5s", "10s", "20s", "30s", "1m", "2m", "5m", "10m", "20m", "30m",
   "1h", "3h", "6h", "12h", "1d", "7d", "30d"]

def fillOptions : List String :=
  ["none", "null", "0", "previous", "linear"]

def standardDefinitions : List Definition :=
  (Aggregation.all.flatMap fun kind =>
    [Category.forEach, .collapse, .groupBy].map (Definition.aggregation kind)) ++
  SeriesFilter.all.map .filter ++
  [.function SavedPart.timeType [{ name := "interval", type := .time, options := intervalOptions }]
     ["1m"],
   .function SavedPart.tagType [{ name := "tag", type := .text, dynamicLookup := true }] [],
   .function SavedPart.fillType [{ name := "fill", type := .text, options := fillOptions }]
     ["null"]]

def standard : Catalog :=
  standardDefinitions.foldl register empty

end SeriesQuery.Catalog
