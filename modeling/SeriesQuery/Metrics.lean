import SeriesQuery.Error

/-! Counters of renders, edits, lookups and errors, and the text in which they are handed out. -/

namespace SeriesQuery

/-- Counts by the values of labels, in the order of these values. Two lists of values that are the
same text when written one after the other are one series, which keeps the values that came first.
-/
structure Counter where
  series : List (List String × Nat)
deriving DecidableEq

namespace Counter

def empty : Counter := ⟨[]⟩

/-- What a series is told apart by. -/
def identity (values : List String) : String :=
  String.join values

def has (c : Counter) (values : List String) : Bool :=
  c.series.any fun (others, _) => identity others == identity values

def insert (values : List String) (n : Nat) : List (List String × Nat) → List (List String × Nat)
  | [] => [(values, n)]
  | (others, count) :: rest =>
    if values < others then (values, n) :: (others, count) :: rest
    else (others, count) :: insert values n rest

/-- Adds to a count; adding nothing makes the count appear. -/
def add (c : Counter) (values : List String) (n : Nat) : Counter :=
  if c.has values then
    ⟨c.series.map fun (others, count) =>
      if identity others = identity values then (others, count + n) else (others, count)⟩
  else ⟨insert values n c.series⟩

def count (c : Counter) (values : List String) : Nat :=
  match c.series.find? fun (others, _) => identity others == identity values with
  | some (_, n) => n
  | none => 0

end Counter

structure Metrics where
  edits : Counter := .empty
  errors : Counter := .empty
  lookups : Counter := .empty
  renders : Counter := .empty
deriving DecidableEq

namespace Metrics

instance : Inhabited Metrics := ⟨{}⟩

def lookupStatus (found : Bool) : List String := [if found then "found" else "missing"]

def renderStatus (success : Bool) : List String := [if success then "success" else "error"]

def recordEdit (operation : String) (m : Metrics) : Metrics :=
  { m with edits := m.edits.add [operation] 1 }

def recordError (kind operation : String) (m : Metrics) : Metrics :=
  { m with errors := m.errors.add [kind, operation] 1 }

def recordLookup (found : Bool) (m : Metrics) : Metrics :=
  { m with lookups := m.lookups.add (lookupStatus found) 1 }

def recordRender (success : Bool) (m : Metrics) : Metrics :=
  { m with renders := m.renders.add (renderStatus success) 1 }

/-- Makes the counts of renders and lookups appear before the first of them. -/
def touch (m : Metrics) : Metrics :=
  { m with
    lookups := (m.lookups.add (lookupStatus true) 0).add (lookupStatus false) 0
    renders := (m.renders.add (renderStatus true) 0).add (renderStatus false) 0 }

/-- A counter with its name and its labels. -/
structure Family where
  name : String
  help : String
  labels : List String
  counter : Counter

/-- The counters in the order of their names. -/
def families (m : Metrics) : List Family :=
  [⟨"heroic_query_edits_total", "Total query model edits by operation", ["operation"], m.edits⟩,
   ⟨"heroic_query_errors_total", "Total errors by type and operation",
      ["error_type", "operation"], m.errors⟩,
   ⟨"heroic_query_part_lookups_total", "Total part definition lookups", ["status"], m.lookups⟩,
   ⟨"heroic_query_renders_total", "Total request renders", ["status"], m.renders⟩]

def escapedLabel (value : String) : String :=
  .ofList <| value.toList.flatMap fun
    | '\\' => ['\\', '\\']
    | '\n' => ['\\', 'n']
    | '"' => ['\\', '"']
    | c => [c]

def seriesLine (f : Family) (values : List String) (n : Nat) : String :=
  let pairs := (f.labels.zip values).map fun (label, value) =>
    label ++ "=\"" ++ escapedLabel value ++ "\""
  f.name ++ "\x7b" ++ String.intercalate "," pairs ++ "\x7d " ++ toString n

/-- The lines of a counter, none while it counts nothing. -/
def familyLines (f : Family) : List String :=
  if f.counter.series.isEmpty then []
  else
    ["# HELP " ++ f.name ++ " " ++ f.help, "# TYPE " ++ f.name ++ " counter"] ++
    f.counter.series.map fun (values, n) => seriesLine f values n

/-- All lines, of which those that begin with a number sign are descriptions. -/
def lines (m : Metrics) : List String :=
  m.families.flatMap familyLines

def text (m : Metrics) : String :=
  String.join (m.lines.map (· ++ "\n"))

end Metrics

end SeriesQuery
