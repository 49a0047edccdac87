import SeriesQuery.Settings.Basic

/-! Settings as JSON and as the documents that they are read from. -/

namespace SeriesQuery.Settings

def toJson (s : Settings) : Json :=
  .object [
    ("defaults", .object [
      ("measurement", .string s.defaults.measurement),
      ("result_format", .string s.defaults.resultFormat),
      ("order_by_time", .string s.defaults.orderByTime),
      ("group_by_interval", .string s.defaults.groupByInterval),
      ("placeholder_tag_value", .string s.defaults.placeholder)]),
    ("render", .object [
      ("range_placeholder", .string s.rendering.rangePlaceholder),
      ("distributed_aggregations_feature", .string s.rendering.distributedFeature),
      ("pipeline_policy", .string s.rendering.pipelinePolicy.name)]),
    ("logging", .object [("log_level", .string s.logging.level)])]

/-- What the formats that settings are read from differ in. -/
structure Format where
  /-- Whether a document stands for no value. -/
  isEmpty : Json.Document → Bool
  /-- Whether a record given as an array may go on behind its last field. -/
  surplus : Bool

def Format.json : Format where
  isEmpty := Json.Document.isNull
  surplus := false

def defaultsReader (format : Format) : Json.Reader Defaults :=
  let absent : Defaults := {}
  (Json.Fields.defaulted "measurement" .string absent.measurement <|
      .defaulted "result_format" .string absent.resultFormat <|
      .defaulted "order_by_time" .string absent.orderByTime <|
      .defaulted "group_by_interval" .string absent.groupByInterval <|
      .defaulted "placeholder_tag_value" .string absent.placeholder
        .done).reader format.surplus |>.map
    fun (measurement, resultFormat, orderByTime, groupByInterval, placeholder, ()) =>
      { measurement, resultFormat, orderByTime, groupByInterval, placeholder }

def renderingReader (format : Format) : Json.Reader Rendering :=
  let absent : Rendering := {}
  (Json.Fields.defaulted "range_placeholder" .string absent.rangePlaceholder <|
      .defaulted "distributed_aggregations_feature" .string absent.distributedFeature <|
      .defaulted "pipeline_policy" (.name format.isEmpty PipelinePolicy.ofName?)
        absent.pipelinePolicy .done).reader format.surplus |>.map
    fun (rangePlaceholder, distributedFeature, pipelinePolicy, ()) =>
      { rangePlaceholder, distributedFeature, pipelinePolicy }

def loggingReader (format : Format) : Json.Reader Logging :=
  (Json.Fields.defaulted "log_level" .string ({} : Logging).level
        .done).reader format.surplus |>.map
    fun (level, ()) => { level }

/-- Settings from a document of some format. -/
def readerOf (format : Format) : Json.Reader Settings :=
  (Json.Fields.defaulted "defaults" (defaultsReader format) {} <|
      .defaulted "render" (renderingReader format) {} <|
      .defaulted "logging" (loggingReader format) {}
        .done).reader format.surplus |>.map
    fun (defaults, rendering, logging, ()) => { defaults, rendering, logging }

/-- Settings from JSON. -/
def reader : Json.Reader Settings :=
  readerOf .json

end SeriesQuery.Settings
