import SeriesQuery.Error
import SeriesQuery.Target.Basic

/-! Settings for new targets and for requests. -/

namespace SeriesQuery

/-- What to do with pipelines behind the first. -/
inductive PipelinePolicy
  /-- Only the first pipeline is rendered. -/
  | first
  /-- More than one pipeline with parts is an error. -/
  | reject
deriving DecidableEq

namespace PipelinePolicy

def all : List PipelinePolicy := [first, reject]

def name : PipelinePolicy → String
  | first => "first"
  | reject => "reject"

def ofName? (name : String) : Option PipelinePolicy :=
  all.find? (·.name == name)

end PipelinePolicy

namespace Settings

structure Defaults where
  measurement : String := "measurement"
  resultFormat : String := "time_series"
  orderByTime : String := "ASC"
  groupByInterval : String := "1m"
  /-- The tag value that stands for one not chosen yet. -/
  placeholder : String := "select tag value"
deriving DecidableEq

structure Rendering where
  rangePlaceholder : String := "$timeFilter"
  distributedFeature : String := "com.spotify.heroic.distributed_aggregations"
  pipelinePolicy : PipelinePolicy := .first
deriving DecidableEq

structure Logging where
  level : String := "info"
deriving DecidableEq

namespace Defaults

/-- A new target. -/
def target (d : Defaults) : Target where
  measurement := d.measurement
  resultFormat := d.resultFormat
  orderByTime := d.orderByTime
  groupBy := [.clause SavedPart.timeType (some [d.groupByInterval])]

/-- The text, or another one where it is empty. -/
def orElse (text other : String) : String :=
  if text.isEmpty then other else text

/-- Fills what is blank in a target. Without pipelines it gets an empty one; without clauses it
stays. -/
def fill (d : Defaults) (target : Target) : Target :=
  { target with
    measurement := orElse target.measurement d.measurement
    resultFormat := orElse target.resultFormat d.resultFormat
    orderByTime := orElse target.orderByTime d.orderByTime
    select := if target.select.isEmpty then [[]] else target.select }

end Defaults

end Settings

structure Settings where
  defaults : Settings.Defaults := {}
  rendering : Settings.Rendering := {}
  logging : Settings.Logging := {}
deriving DecidableEq

namespace Settings

instance : Inhabited Settings := ⟨{}⟩

/-- Changes what variables of the environment name. A policy may be written in capitals; an unknown
one is passed over. -/
def override (lookup : String → Option String) (s : Settings) : Settings where
  defaults := { s.defaults with
    measurement := (lookup "HEROIC_DEFAULT_MEASUREMENT").getD s.defaults.measurement
    groupByInterval := (lookup "HEROIC_GROUP_BY_INTERVAL").getD s.defaults.groupByInterval }
  rendering := { s.rendering with
    pipelinePolicy :=
      ((lookup "HEROIC_PIPELINE_POLICY").bind fun name => PipelinePolicy.ofName? (lower name)).getD
        s.rendering.pipelinePolicy
    distributedFeature :=
      (lookup "HEROIC_DISTRIBUTED_FEATURE").getD s.rendering.distributedFeature }
  logging := { s.logging with level := (lookup "RUST_LOG").getD s.logging.level }
where
  /-- Letters outside ASCII can stay: none of them is a capital of a letter in the name of a policy.
  -/
  lower (name : String) : String := .ofList (name.toList.map Char.toLower)

def validate (s : Settings) : Except Error Unit :=
  if s.defaults.measurement.isEmpty then .error (.configuration .emptyMeasurement)
  else
    match Interval.seconds s.defaults.groupByInterval with
    | .error fault => .error (.configuration (.interval fault))
    | .ok _ =>
      if s.rendering.rangePlaceholder.isEmpty then .error (.configuration .emptyRange) else .ok ()

end Settings

end SeriesQuery
