import SeriesQuery.Filter.Basic
import SeriesQuery.Query.Basic

/-! Requests: what a query asks of the backend. -/

namespace SeriesQuery

structure Request where
  filter : Filter
  /-- The aggregators, of which each works on what the one before it gives. -/
  aggregators : List RenderedPart
  features : List String
  /-- The placeholder for the time range of the dashboard. -/
  range : String

namespace Request

def toJson (r : Request) : Json :=
  .object [("filter", r.filter.toJson),
    ("aggregators", .array (r.aggregators.map RenderedPart.toJson)),
    ("features", Json.strings r.features), ("range", .string r.range)]

def reader : Json.Reader Request :=
  (Json.Fields.required "filter" Filter.reader <|
      .required "aggregators" (.list RenderedPart.reader) <|
      .required "features" (.list .string) <| .required "range" .string .done).reader.map
    fun (filter, aggregators, features, range, ()) => ⟨filter, aggregators, features, range⟩

end Request

namespace Query

/-- A reading of interval literals. -/
abbrev IntervalReading := String → Except Interval.Fault Binary64

/-- The filter of tag records, as they are. -/
def plainFilter (q : Query) (tags : List Tag) : Filter :=
  Filter.ofTags q.settings.defaults.placeholder tags

def resolved {α : Type} (q : Query) (encode : α → Json) (reader : Json.Reader α) (value : α) :
    Except Error α :=
  (q.context.throughJson encode reader value).mapError .serialization

def buildFilter (q : Query) (tags : List Tag) : Counted Filter :=
  Counted.tracked .buildFilter <|
    .ofResult (q.resolved Filter.toJson Filter.reader (q.plainFilter tags))

/-- The window that a `time` clause in the first place gives. -/
def samplingInterval (q : Query) (reading : IntervalReading) : Except Error (Option Binary64) :=
  match q.projection.groupBy with
  | [] => .ok none
  | clause :: _ =>
    if clause.definition.type = SavedPart.timeType then do
      let saved ← q.resolved SavedPart.toJson SavedPart.reader clause.saved
      match saved.params with
      | some (literal :: _) => ((reading literal).map some).mapError .invalidInterval
      | _ => .error (.invalidInterval .absent)
    else .ok none

/-- The pipeline that is rendered, if the settings allow the others that have parts. -/
def renderedPipeline (q : Query) : Except Error (List Part) :=
  let populated := (q.projection.select.filter (!·.isEmpty)).length
  match q.settings.rendering.pipelinePolicy with
  | .reject =>
    if 1 < populated then .error (.severalPipelines populated)
    else .ok (q.projection.select.headD [])
  | .first => .ok (q.projection.select.headD [])

def features (q : Query) : List String :=
  if q.target.isDistributed then [q.settings.rendering.distributedFeature] else []

def aggregators (q : Query) (reading : IntervalReading) : Except Error (List RenderedPart) := do
  let interval ← q.samplingInterval reading
  let pipeline ← q.renderedPipeline
  let rendered ← pipeline.mapM fun part => part.render none interval
  q.resolved (fun parts => .array (parts.map RenderedPart.toJson)) (.list RenderedPart.reader)
    rendered

/-- The request of a query; its filter comes first, so that an error of the filter is the one
reported. -/
def request (q : Query) (reading : IntervalReading) : Counted Request := do
  let filter ← q.buildFilter q.target.tags
  let aggregators ← Counted.ofResult (q.aggregators reading)
  return ⟨filter, aggregators, q.features, q.settings.rendering.rangePlaceholder⟩

/-- The request of a query, with the rendering and its outcome counted. -/
def renderWith (q : Query) (reading : IntervalReading) : Counted Request :=
  ExceptT.mk do
    let result ← (Counted.tracked .render (q.request reading)).run
    modify (.recordRender result.isOk)
    return result

def render (q : Query) : Counted Request :=
  q.renderWith Interval.seconds

end Query

end SeriesQuery
