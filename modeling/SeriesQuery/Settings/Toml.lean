import SeriesQuery.Settings.Codec
import SeriesQuery.Toml.Parse
import SeriesQuery.Toml.Printer

/-! Settings as TOML. -/

namespace SeriesQuery.Settings

/-- In TOML an empty table or array is no value, and an array may go on behind the last field. -/
def Format.toml : Format where
  isEmpty
    | .array [] => true
    | .object [] => true
    | _ => false
  surplus := true

def ofToml (text : String) : Except Error Settings :=
  match Toml.parse? text with
  | none => .error (.configuration .unreadable)
  | some entries =>
    match readerOf .toml Json.Reader.levelLimit (.object (Toml.entriesToDocument entries)) with
    | .ok settings => .ok settings
    | .error _ => .error (.configuration .unreadable)

/-- The settings in a file, of which there are no bytes if it is missing. -/
def ofFile (contents : Option ByteArray) : Except Error Settings :=
  match contents.bind String.fromUTF8? with
  | some text => ofToml text
  | none => .error .io

def toToml (s : Settings) : String :=
  String.intercalate "\n" [
    Toml.sectionText "defaults" [
      ("measurement", s.defaults.measurement), ("result_format", s.defaults.resultFormat),
      ("order_by_time", s.defaults.orderByTime), ("group_by_interval", s.defaults.groupByInterval),
      ("placeholder_tag_value", s.defaults.placeholder)],
    Toml.sectionText "render" [
      ("range_placeholder", s.rendering.rangePlaceholder),
      ("distributed_aggregations_feature", s.rendering.distributedFeature),
      ("pipeline_policy", s.rendering.pipelinePolicy.name)],
    Toml.sectionText "logging" [("log_level", s.logging.level)]]

end SeriesQuery.Settings
