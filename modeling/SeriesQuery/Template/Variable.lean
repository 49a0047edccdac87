import SeriesQuery.Json.Record

/-! Dashboard variables: their values, the texts shown for them, and the formats in which a value is
inserted. -/

namespace SeriesQuery.Template

/-- The selection of a variable: one value, or any number of them. -/
inductive Value
  | single (value : String)
  | multi (values : List String)
deriving DecidableEq

/-- A variable as it is inserted: by its text or by its value. -/
structure Variable where
  text : String
  value : Value
deriving DecidableEq

/-- Characters with a meaning of their own in a regular expression. -/
def isMeta (c : Char) : Bool :=
  ['\\', '.', '+', '*', '?', '(', ')', '|', '[', ']', '{', '}', '^', '$', '#', '&', '-',
    '~'].contains c

/-- The text that matches itself in a regular expression. -/
def escapeMeta (s : String) : String :=
  .ofList (s.toList.flatMap fun c => if isMeta c then ['\\', c] else [c])

namespace Value

/-- The value in a format. A selection of several values is an alternation for `regex`, a list for
`pipe` and `csv`, and else a list in braces unless it holds exactly one value. -/
def format (value : Value) (name : Option String) : String :=
  match value, name with
  | .single v, some "regex" => escapeMeta v
  | .single v, _ => v
  | .multi vs, some "regex" => "(" ++ String.intercalate "|" (vs.map escapeMeta) ++ ")"
  | .multi vs, some "pipe" => String.intercalate "|" vs
  | .multi vs, some "csv" => String.intercalate "," vs
  | .multi [v], _ => v
  | .multi vs, _ => "\x7b" ++ String.intercalate "," vs ++ "\x7d"

/-- The text shown for a selection. -/
def shown : Value → String
  | .single v => v
  | .multi vs => String.intercalate " + " vs

def ofJson? : Json → Option Value
  | .string v => some (.single v)
  | .array items => (items.mapM Json.string?).map .multi
  | _ => none

def reader : Json.Reader Value :=
  Json.Reader.json.andThen fun value =>
    match ofJson? value with
    | some value => .ok value
    | none => .error .malformed

end Value

namespace Variable

def ofValue (value : Value) : Variable :=
  ⟨value.shown, value⟩

def reader : Json.Reader Variable :=
  (Json.Fields.required "text" .string <| .required "value" Value.reader .done).reader.map
    fun (text, value, ()) => ⟨text, value⟩

end Variable

structure Variables where
  entries : List (String × Variable)

namespace Variables

def empty : Variables := ⟨[]⟩

/-- Adds a variable or gives it another value. -/
def set (vars : Variables) (name : String) (v : Variable) : Variables :=
  ⟨(name, v) :: vars.entries⟩

def get? (vars : Variables) (name : String) : Option Variable :=
  vars.entries.lookup name

@[simp] theorem get?_set_self (vars : Variables) (name : String) (v : Variable) :
    (vars.set name v).get? name = some v := by
  simp [get?, set]

theorem get?_set_of_ne (vars : Variables) {name other : String} (v : Variable) (h : other ≠ name) :
    (vars.set name v).get? other = vars.get? other := by
  have hne : (other == name) = false := by simpa using h
  simp [get?, set, List.lookup_cons, hne]

end Variables

end SeriesQuery.Template
