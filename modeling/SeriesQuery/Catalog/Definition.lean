import SeriesQuery.Aggregator.Kind
import SeriesQuery.Catalog.Category
import SeriesQuery.Json.Record

/-! Definitions of parts: what type and category they have, which parameters they take, what an
editor is told of these, and how the parts are rendered. -/

namespace SeriesQuery

inductive ParameterType
  | text
  | int
  | time
deriving DecidableEq

namespace ParameterType

def all : List ParameterType := [text, int, time]

def name : ParameterType → String
  | text => "string"
  | int => "int"
  | time => "time"

def ofName? (name : String) : Option ParameterType :=
  all.find? (·.name == name)

end ParameterType

structure Parameter where
  name : String
  type : ParameterType
  /-- The values that an editor offers; any value if there are none. -/
  options : List String := []
  /-- An editor offers the values that tags have at the time. -/
  dynamicLookup : Bool := false
  optional : Bool := false
deriving DecidableEq

namespace Parameter

def toJson (p : Parameter) : Json :=
  .object <|
    [("name", .string p.name), ("type", .string p.type.name)] ++
    (if p.options.isEmpty then [] else [("options", Json.strings p.options)]) ++
    [("dynamicLookup", .bool p.dynamicLookup), ("optional", .bool p.optional)]

def reader : Json.Reader Parameter :=
  (Json.Fields.required "name" .string <|
      .required "type" (.name Json.Document.isNull ParameterType.ofName?) <|
      .defaulted "options" (.list .string) [] <| .defaulted "dynamicLookup" .bool false <|
      .defaulted "optional" .bool false .done).reader.map
    fun (name, type, options, dynamicLookup, optional, ()) =>
      { name, type, options, dynamicLookup, optional }

end Parameter

inductive Renderer
  /-- A grouping with one aggregation, by some tags unless a part names its own. -/
  | aggregate (kind : Aggregation) (defaultTags : Option (List String))
  /-- A filter of series, with the first parameter as its number. -/
  | filter (kind : SeriesFilter)
  /-- The text of a function call. -/
  | function
deriving DecidableEq

structure Definition where
  type : String
  category : Option Category
  parameters : List Parameter
  /-- The values of a part that is saved without any. -/
  defaultParams : List String
  renderer : Renderer
deriving DecidableEq

namespace Definition

/-- An aggregation in a category; only those that group anew take parameters. -/
def aggregation (kind : Aggregation) (category : Category) : Definition where
  type := kind.name
  category := some category
  parameters :=
    if category = .groupBy then [{ name := "tag", type := .text, dynamicLookup := true }] else []
  defaultParams := []
  renderer := .aggregate kind category.defaultGrouping

/-- A filter of series with its one number. -/
def filter (kind : SeriesFilter) : Definition where
  type := kind.name
  category := some .filters
  parameters := [{ name := "k", type := .int }]
  defaultParams := ["5"]
  renderer := .filter kind

/-- A function, which belongs to no category. -/
def function (type : String) (parameters : List Parameter) (defaultParams : List String) :
    Definition where
  type := type
  category := none
  parameters := parameters
  defaultParams := defaultParams
  renderer := .function

def isOptional (d : Definition) (index : Nat) : Bool :=
  match d.parameters[index]? with
  | some p => p.optional
  | none => false

def isTime (d : Definition) (index : Nat) : Bool :=
  match d.parameters[index]? with
  | some p => p.type == .time
  | none => false

end Definition

end SeriesQuery
