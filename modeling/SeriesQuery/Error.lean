import SeriesQuery.Interval
import SeriesQuery.Json.Reader
import SeriesQuery.Text.Quoted

/-! What can go wrong in a query, in its settings and in the texts that they are read from. -/

namespace SeriesQuery

/-- What an index addresses. -/
inductive Indexed
  | param
  | clause
  | pipeline
  | part
deriving DecidableEq

def Indexed.name : Indexed → String
  | param => "param"
  | clause => "group-by"
  | pipeline => "pipeline"
  | part => "part"

/-- What is wrong with settings. -/
inductive SettingsFault
  /-- They cannot be read from their text. -/
  | unreadable
  | emptyMeasurement
  | interval (fault : Interval.Fault)
  | emptyRange

/-- The kinds of errors that are counted apart. -/
inductive ErrorKind
  | partNotFound
  | parse
  | invalidInterval
  | invalidParam
  | invalidIndex
  | unsupportedQuery
  | serialization
  | configuration
  | io
deriving DecidableEq

def ErrorKind.name : ErrorKind → String
  | partNotFound => "part_not_found"
  | parse => "parse"
  | invalidInterval => "invalid_interval"
  | invalidParam => "invalid_param"
  | invalidIndex => "invalid_index"
  | unsupportedQuery => "unsupported_query"
  | serialization => "serialization"
  | configuration => "configuration"
  | io => "io"

inductive Error
  /-- No definition has this type in the category of this label. -/
  | partNotFound (type : String) (label : Option String)
  /-- The text is not a function name with an argument in parentheses. -/
  | notAnExpression (text : String)
  | invalidInterval (fault : Interval.Fault)
  /-- A parameter has a value that the part cannot be rendered with. -/
  | invalidParam (type : String) (index : Nat) (value : String)
  | invalidIndex (what : Indexed) (index length : Nat)
  /-- More than one pipeline has parts, where only one may. -/
  | severalPipelines (populated : Nat)
  | serialization (refusal : Refusal)
  | configuration (fault : SettingsFault)
  /-- A file is not there, or it is not text. -/
  | io

namespace Error

def kind : Error → ErrorKind
  | partNotFound .. => .partNotFound
  | notAnExpression _ => .parse
  | invalidInterval _ => .invalidInterval
  | invalidParam .. => .invalidParam
  | invalidIndex .. => .invalidIndex
  | severalPipelines _ => .unsupportedQuery
  | serialization _ => .serialization
  | configuration _ => .configuration
  | io => .io

def intervalMessage (fault : Interval.Fault) : String :=
  "Invalid interval: " ++ fault.explanation

/-- The message of an error, for those whose cause is told in this library's own words. -/
def message : Error → Option String
  | partNotFound type label =>
    some ("Could not find query part " ++ type ++ " (category: " ++ label.getD "none" ++ ")")
  | notAnExpression text =>
    some ("Parse error: '" ++ text ++ "' is not a group-by expression, expecting name(argument)")
  | invalidInterval fault => some (intervalMessage fault)
  | invalidParam type index value =>
    some ("Invalid parameter " ++ toString index ++ " for part " ++ type ++ ": "
      ++ Text.quoted value)
  | invalidIndex what index length =>
    some (what.name ++ " index " ++ toString index ++ " out of range (len "
      ++ toString length ++ ")")
  | severalPipelines populated =>
    some ("Unsupported query: " ++ toString populated
      ++ " populated select pipelines, only one can be rendered")
  | serialization refusal => refusal.explanation.map ("Serialization error: " ++ ·)
  | configuration .unreadable => none
  | configuration .emptyMeasurement =>
    some "Configuration error: Default measurement cannot be empty"
  | configuration (.interval fault) =>
    some ("Configuration error: Invalid default group-by interval: " ++ intervalMessage fault)
  | configuration .emptyRange => some "Configuration error: Range placeholder cannot be empty"
  | io => none

end Error

end SeriesQuery
