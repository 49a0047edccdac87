/-! The aggregations that the backend knows, and the filters that keep or drop whole series. -/

namespace SeriesQuery

/-- An aggregation of the samples of a series. -/
inductive Aggregation
  | average
  | count
  | delta
  | deltaPerSecond
  | max
  | min
  | notNegative
  | stddev
  | sum
  | sum2
deriving DecidableEq

namespace Aggregation

def all : List Aggregation :=
  [average, count, delta, deltaPerSecond, max, min, notNegative, stddev, sum, sum2]

def name : Aggregation → String
  | average => "average"
  | count => "count"
  | delta => "delta"
  | deltaPerSecond => "deltaPerSecond"
  | max => "max"
  | min => "min"
  | notNegative => "notNegative"
  | stddev => "stddev"
  | sum => "sum"
  | sum2 => "sum2"

def ofName? (name : String) : Option Aggregation :=
  all.find? (·.name == name)

/-- The aggregation works on windows of samples. -/
def isSampled : Aggregation → Bool
  | delta | deltaPerSecond | notNegative | stddev => false
  | _ => true

@[simp] theorem ofName?_name (a : Aggregation) : ofName? a.name = some a := by
  cases a <;> decide

theorem ofName?_eq_some_iff {name : String} {a : Aggregation} :
    ofName? name = some a ↔ a.name = name := by
  constructor
  · intro h
    simpa using List.find?_some h
  · rintro rfl
    exact ofName?_name a

end Aggregation

/-- A filter that keeps the series above or below a threshold, or a number of the highest or the
lowest ones. -/
inductive SeriesFilter
  | above
  | below
  | top
  | bottom
deriving DecidableEq

namespace SeriesFilter

def all : List SeriesFilter := [above, below, top, bottom]

def name : SeriesFilter → String
  | above => "abovek"
  | below => "belowk"
  | top => "topk"
  | bottom => "bottomk"

def ofName? (name : String) : Option SeriesFilter :=
  all.find? (·.name == name)

@[simp] theorem ofName?_name (f : SeriesFilter) : ofName? f.name = some f := by
  cases f <;> decide

theorem ofName?_eq_some_iff {name : String} {f : SeriesFilter} :
    ofName? name = some f ↔ f.name = name := by
  constructor
  · intro h
    simpa using List.find?_some h
  · rintro rfl
    exact ofName?_name f

end SeriesFilter

end SeriesQuery
