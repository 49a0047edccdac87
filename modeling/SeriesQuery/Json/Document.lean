import SeriesQuery.Json.Basic

/-!
A text read as JSON, before anything is known about its purpose. Numbers keep their digits and
strings may hold half of a surrogate pair, because a part of a text that nobody looks at may contain
either. A fault marks the place where the text stops being JSON; nothing follows it.
-/

namespace SeriesQuery.Json

inductive Document
  | fault
  | null
  | bool (value : Bool)
  | number (literal : Literal)
  /-- No text for a string with half of a surrogate pair. -/
  | string (text : Option String)
  | array (items : List Document)
  | object (fields : List (Option String × Document))

namespace Document

instance : Inhabited Document := ⟨.fault⟩

def isNull : Document → Bool
  | .null => true
  | _ => false

mutual

/-- The text is JSON to its end. -/
def isWhole : Document → Bool
  | .fault => false
  | .array items => areWhole items
  | .object fields => fieldsAreWhole fields
  | _ => true

def areWhole : List Document → Bool
  | [] => true
  | item :: rest => isWhole item && areWhole rest

def fieldsAreWhole : List (Option String × Document) → Bool
  | [] => true
  | (_, value) :: rest => isWhole value && fieldsAreWhole rest

end

mutual

/-- The value that a document is, with its fields as they stand; none if it is faulty, has more
levels than allowed, or holds a number out of range or half of a surrogate pair. -/
def toJson? (levels : Nat) : Document → Option Json
  | .fault => none
  | .null => some .null
  | .bool value => some (.bool value)
  | .number literal => literal.toNumber?.map .number
  | .string text => text.map .string
  | .array items =>
    match levels with
    | 0 => none
    | levels + 1 => (itemsToJson? levels items).map .array
  | .object fields =>
    match levels with
    | 0 => none
    | levels + 1 => (fieldsToJson? levels fields).map .object

def itemsToJson? (levels : Nat) : List Document → Option (List Json)
  | [] => some []
  | item :: rest => do
    let item ← toJson? levels item
    let rest ← itemsToJson? levels rest
    return item :: rest

def fieldsToJson? (levels : Nat) : List (Option String × Document) → Option (List (String × Json))
  | [] => some []
  | (name, value) :: rest => do
    let name ← name
    let value ← toJson? levels value
    let rest ← fieldsToJson? levels rest
    return (name, value) :: rest

end

end Document

end SeriesQuery.Json
