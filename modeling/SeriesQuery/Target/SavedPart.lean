import SeriesQuery.Catalog.Category
import SeriesQuery.Json.Record

/-! Query parts as they are saved: a type, perhaps parameters, and the category of a select part. -/

namespace SeriesQuery

structure SavedPart where
  type : String
  /-- Without parameters a part has those of its definition. -/
  params : Option (List String)
  scope : Scope
deriving DecidableEq

namespace SavedPart

/-- The type of the clause that gives the size of the sampling window. -/
def timeType : String := "time"

def fillType : String := "fill"

def tagType : String := "tag"

def clause (type : String) (params : Option (List String)) : SavedPart :=
  ⟨type, params, .none⟩

def select (category : Category) (type : String) : SavedPart :=
  ⟨type, none, .known category⟩

def label? (part : SavedPart) : Option String :=
  part.scope.label?

/-- The text of a parameter. Numbers and truth values stand for their text and `null` for the empty
one. -/
def paramOfJson : Json → Except Refusal String
  | .string text => .ok text
  | .number n => .ok n.text
  | .bool true => .ok "true"
  | .bool false => .ok "false"
  | .null => .ok ""
  | value => .error (.unsupportedParameter value)

def toJson (part : SavedPart) : Json :=
  .object <|
    ("type", .string part.type) :: Json.optional "params" Json.strings part.params ++
    Json.optional "categoryName" .string part.label?

/-- The list of parameters is read as a whole before its items are looked at. -/
def paramsReader : Json.Reader (Option (List String)) :=
  (Json.Reader.option (.list .sortedJson)).andThen fun
    | none => .ok none
    | some values => (values.mapM paramOfJson).map some

def reader : Json.Reader SavedPart :=
  let text : Json.Reader String := .string
  (Json.Fields.required "type" text <| .defaulted "params" paramsReader none <|
      .optional "categoryName" text .done).reader.map
    fun (type, params, label, ()) => ⟨type, params, .ofLabel? label⟩

end SavedPart

end SeriesQuery
