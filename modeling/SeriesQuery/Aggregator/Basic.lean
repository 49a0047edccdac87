import SeriesQuery.Aggregator.Kind
import SeriesQuery.Json.Record

/-!
Aggregators as the backend receives them, with the windows over which samples are aggregated. An
aggregator is an object tagged by its type, and is read also from an array that begins with the tag.
-/

namespace SeriesQuery

/-- A window in seconds; without a size where no time grouping gives one. -/
structure Sampling where
  value : Option Json.Number
deriving DecidableEq

namespace Sampling

/-- The number written for a window: a whole number of seconds from 0 to 2^64 as an integer, of
which the last is out of reach and written as the integer before it, any other finite size as a
double, and nothing for an infinite one. -/
def number? : Binary64 → Option Json.Number
  | .infinite _ => none
  | .finite negative magnitude =>
    match magnitude.whole? with
    | some n =>
      if negative && !magnitude.isZero || decide (0x10000000000000000 < n) then
        some (.real negative magnitude)
      else
        some (.integer (min n 0xFFFFFFFFFFFFFFFF : Nat) (bounds n))
    | none => some (.real negative magnitude)
where
  bounds (n : Nat) : -0x8000000000000000 ≤ ((min n 0xFFFFFFFFFFFFFFFF : Nat) : Int) ∧
      ((min n 0xFFFFFFFFFFFFFFFF : Nat) : Int) < 0x10000000000000000 := by
    omega

def ofSeconds (seconds : Option Binary64) : Sampling :=
  ⟨seconds.bind number?⟩

def unitName : String := "seconds"

def toJson (s : Sampling) : Json :=
  .object [("unit", .string unitName), ("value", Json.ofOption .number s.value)]

end Sampling

/-- One aggregation within the groups of a grouping. -/
structure GroupedAggregation where
  kind : Aggregation
  /-- The window of a sampled aggregation. -/
  sampling : Option Sampling
deriving DecidableEq

inductive Aggregator
  /-- Groups series by tags, or keeps each for itself, and aggregates within every group. -/
  | group (tags : Option (List String)) (each : List GroupedAggregation)
  | filter (kind : SeriesFilter) (k : Int64) (inner : Aggregator)
  | empty
deriving DecidableEq

namespace Json

/-- The value of a field that an object has exactly once. -/
def once? (name : String) (fields : List (String × Json)) : Option Json :=
  match fields.filter (·.1 == name) with
  | [(_, value)] => some value
  | _ => none

/-- The value of a field that an object has at most once, where `null` stands for an absent one. -/
def atMostOnce? (name : String) (fields : List (String × Json)) : Option Json :=
  match fields.filter (·.1 == name) with
  | [] => some .null
  | [(_, value)] => some value
  | _ => none

/-- No value where there is `null`. -/
def option? {α : Type} (read : Json → Option α) : Json → Option (Option α)
  | .null => some none
  | value => (read value).map some

def list? {α : Type} (read : Json → Option α) : Json → Option (List α)
  | .array items => items.mapM read
  | _ => none

def number? : Json → Option Number
  | .number value => some value
  | _ => none

/-- A whole number of 64 bits with a sign. -/
def int64? : Json → Option Int64
  | .number (.integer value _) => if value < 0x8000000000000000 then some (.ofInt value) else none
  | _ => none

def ofInt64 (value : Int64) : Json :=
  .integer value.toInt ⟨Int64.le_toInt value, by have := Int64.toInt_lt value; omega⟩

/-- A name given as a string, or as the one field of an object whose value is `null` or an empty
object. -/
def name? : Json → Option String
  | .string name => some name
  | .object [(name, .null)] => some name
  | .object [(name, .object [])] => some name
  | _ => none

end Json

namespace Sampling

def ofParts? (unit value : Json) : Option Sampling := do
  let unit ← unit.name?
  let value ← value.option? Json.number?
  if unit = unitName then some ⟨value⟩ else none

def ofJson? : Json → Option Sampling
  | .object fields => do ofParts? (← Json.once? "unit" fields) (← Json.atMostOnce? "value" fields)
  | .array [unit, value] => ofParts? unit value
  | _ => none

end Sampling

namespace GroupedAggregation

def toJson (a : GroupedAggregation) : Json :=
  .object (("type", .string a.kind.name) :: Json.optional "sampling" Sampling.toJson a.sampling)

def ofParts? (kind sampling : Json) : Option GroupedAggregation := do
  let kind ← kind.name?
  let kind ← Aggregation.ofName? kind
  let sampling ← sampling.option? Sampling.ofJson?
  return ⟨kind, sampling⟩

def ofJson? : Json → Option GroupedAggregation
  | .object fields => do
    ofParts? (← Json.once? "type" fields) (← Json.atMostOnce? "sampling" fields)
  | .array [kind] => ofParts? kind .null
  | .array [kind, sampling] => ofParts? kind sampling
  | _ => none

end GroupedAggregation

namespace Aggregator

/-- What the type of an aggregator says: a grouping, one of the filters, or nothing. -/
inductive Shape
  | group
  | filter (kind : SeriesFilter)
  | empty
deriving DecidableEq

namespace Shape

def all : List Shape := .group :: SeriesFilter.all.map .filter ++ [.empty]

def name : Shape → String
  | group => "group"
  | filter kind => kind.name
  | empty => "empty"

/-- A shape is given by its name or by its place among all shapes. -/
def ofJson? : Json → Option Shape
  | .string name => all.find? (·.name == name)
  | .number (.integer (.ofNat n) _) => all[n]?
  | _ => none

end Shape

def groupOf? (tags each : Json) : Option Aggregator := do
  let tags ← tags.option? (Json.list? Json.string?)
  let each ← each.list? GroupedAggregation.ofJson?
  return .group tags each

mutual

def ofJson? : Json → Option Aggregator
  | .object fields => do
    match ← Shape.ofJson? (← Json.once? "type" fields) with
    | .group => groupOf? (← Json.atMostOnce? "of" fields) (← Json.once? "each" fields)
    | .filter kind =>
      let k ← Json.int64? (← Json.once? "k" fields)
      let _ ← Json.once? "of" fields
      let inner ← innerOf? fields
      return .filter kind k inner
    | .empty => return .empty
  | .array [tag] => do
    match ← Shape.ofJson? tag with
    | .empty => return .empty
    | _ => none
  | .array [tag, first, second] => do
    match ← Shape.ofJson? tag with
    | .group => groupOf? first second
    | .filter kind =>
      let k ← Json.int64? first
      let inner ← ofJson? second
      return .filter kind k inner
    | .empty => none
  | _ => none

/-- The aggregator in the field `of`. -/
def innerOf? : List (String × Json) → Option Aggregator
  | [] => none
  | (name, value) :: rest => if name = "of" then ofJson? value else innerOf? rest

end

def toJson : Aggregator → Json
  | group tags each =>
    .object [("type", .string Shape.group.name), ("of", Json.ofOption Json.strings tags),
      ("each", .array (each.map GroupedAggregation.toJson))]
  | filter kind k inner =>
    .object [("type", .string kind.name), ("k", .ofInt64 k), ("of", inner.toJson)]
  | empty => .object [("type", .string Shape.empty.name)]

/-- A grouping with one aggregation, which has a window if it is sampled. -/
def single (kind : Aggregation) (tags : Option (List String)) (interval : Option Binary64) :
    Aggregator :=
  .group tags [⟨kind, if kind.isSampled then some (.ofSeconds interval) else none⟩]

end Aggregator

/-- What a part of a query is rendered to: an aggregator, or the text of a function call. -/
inductive RenderedPart
  | aggregator (value : Aggregator)
  | expression (text : String)
deriving DecidableEq

namespace RenderedPart

def toJson : RenderedPart → Json
  | aggregator value => value.toJson
  | expression text => .string text

def ofJson? (value : Json) : Option RenderedPart :=
  ((Aggregator.ofJson? value).map aggregator).or (value.string?.map expression)

def reader : Json.Reader RenderedPart :=
  Json.Reader.json.andThen fun value =>
    match ofJson? value with
    | some part => .ok part
    | none => .error .malformed

end RenderedPart

end SeriesQuery
