import SeriesQuery.Target.Tag

/-!
Filters of the backend, and the filter that the tag records of a query stand for. A filter is an
array that begins with the name of its operation; an array of three strings with any other name is a
match on a tag.
-/

namespace SeriesQuery

inductive Filter
  | always
  | and (children : List Filter)
  /-- The key of a series has this value. -/
  | key (value : String)
  | not (inner : Filter)
  /-- An expression of the backend's own language. -/
  | custom (expression : String)
  /-- A tag compares with a value. -/
  | compare (operator tag value : String)

namespace Filter

mutual

def toJson : Filter → Json
  | always => .array [.string "true"]
  | and children => .array (.string "and" :: childrenToJson children)
  | key value => .array [.string "key", .string value]
  | not inner => .array [.string "not", inner.toJson]
  | custom expression => .array [.string "q", .string expression]
  | compare operator tag value => .array [.string operator, .string tag, .string value]

def childrenToJson : List Filter → List Json
  | [] => []
  | child :: rest => child.toJson :: childrenToJson rest

end

/-- The string at a position of a filter. -/
def stringAt (whole : Json) (position : Nat) : Json → Except Refusal String
  | .string text => .ok text
  | _ => .error (.notAString position whole)

mutual

def ofJson : Json → Except Refusal Filter
  | .array items =>
    match items with
    | .string "and" :: children => (ofChildren children).map and
    | [.string "true"] => .ok always
    | [.string "key", value] => (stringAt (.array items) 1 value).map key
    | [.string "not", inner] => (ofJson inner).map not
    | [.string "q", expression] => (stringAt (.array items) 1 expression).map custom
    | [.string operator, tag, value] => do
      let tag ← stringAt (.array items) 1 tag
      let value ← stringAt (.array items) 2 value
      return .compare operator tag value
    | .string _ :: _ => .error (.unrecognizedFilter (.array items))
    | _ => .error (.noOperation (.array items))
  | value => .error (.notAnArray value)

def ofChildren : List Json → Except Refusal (List Filter)
  | [] => .ok []
  | child :: rest => do
    let child ← ofJson child
    let rest ← ofChildren rest
    return child :: rest

end

/-- A filter is read as a whole before its operations are looked at. -/
def reader : Json.Reader Filter :=
  Json.Reader.sortedJson.andThen ofJson

/-- The comparison of a tag with a value; a leading `!` of the operator negates it. -/
def ofComparison (operator tag value : String) : Filter :=
  match operator.toList with
  | '!' :: positive => .not (.compare (.ofList positive) tag value)
  | _ => .compare operator tag value

def ofTag (tag : Tag) : Option Filter :=
  if tag.isCustom then some (.custom tag.key)
  else tag.value.map (ofComparison (tag.operator.getD "=") tag.key)

def keyOf (tags : List Tag) : Option String :=
  (tags.filter Tag.isSeriesKey).findSome? Tag.value

def clausesOf (tags : List Tag) : List Filter :=
  (tags.filter (!·.isSeriesKey)).filterMap ofTag

/-- The conjunction of filters; none of them hold always. -/
def conjunction : List Filter → Filter
  | [] => .always
  | filters => .and filters

/-- The filter of all records but those whose value is the placeholder for a value not chosen yet.
-/
def ofTags (placeholder : String) (tags : List Tag) : Filter :=
  let usable := tags.filter (·.value != some placeholder)
  conjunction ((keyOf usable).toList.map .key ++ clausesOf usable)

end Filter

end SeriesQuery
