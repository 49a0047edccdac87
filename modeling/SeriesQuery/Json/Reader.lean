import SeriesQuery.Json.Parse

/-!
Readers of typed values. A reader goes through a document in the order of its text and stops at the
first thing it cannot use, so of two faults the one that comes first in the text is reported. Only a
value that is sound JSON but unfit for its place is refused with an explanation. Every array and
object takes one of the levels that are left.
-/

namespace SeriesQuery

inductive Refusal
  /-- The text is not JSON, or a value has the wrong shape. -/
  | malformed
  | notAnArray (value : Json)
  | noOperation (value : Json)
  | notAString (position : Nat) (value : Json)
  | unrecognizedFilter (value : Json)
  | unsupportedParameter (value : Json)

namespace Refusal

def explanation : Refusal → Option String
  | malformed => none
  | notAnArray value => some ("filter must be an array, got " ++ value.text)
  | noOperation value => some ("filter must start with an operation name: " ++ value.text)
  | notAString position value =>
    some ("expected string at position " ++ toString position ++ " of " ++ value.text)
  | unrecognizedFilter value => some ("unrecognized filter: " ++ value.text)
  | unsupportedParameter value => some ("unsupported parameter value: " ++ value.text)

end Refusal

namespace Json

/-- Reads a value from a document of at most so many levels. -/
abbrev Reader (α : Type) := Nat → Document → Except Refusal α

namespace Reader

variable {α β : Type}

def map (f : α → β) (reader : Reader α) : Reader β :=
  fun levels document => (reader levels document).map f

def andThen (reader : Reader α) (f : α → Except Refusal β) : Reader β :=
  fun levels document => reader levels document >>= f

def string : Reader String
  | _, .string (some text) => .ok text
  | _, _ => .error .malformed

def bool : Reader Bool
  | _, .bool value => .ok value
  | _, _ => .error .malformed

def option (reader : Reader α) : Reader (Option α)
  | _, .null => .ok none
  | levels, document => (reader levels document).map some

def list (reader : Reader α) : Reader (List α)
  | levels + 1, .array items => items.mapM (reader levels)
  | _, _ => .error .malformed

/-- Any value, with the fields of its objects in the order of the text. -/
def json : Reader Json :=
  fun levels document =>
    match document.toJson? levels with
    | some value => .ok value
    | none => .error .malformed

/-- Any value, with the fields of its objects sorted. -/
def sortedJson : Reader Json :=
  json.map Json.sorted

def skip (document : Document) : Except Refusal Unit :=
  if document.isWhole then .ok () else .error .malformed

/-- One of several names, written as a string or as an object that gives the name an empty value. -/
def name (isEmpty : Document → Bool) (named : String → Option α) : Reader α
  | _, .string (some text) => resolve text
  | _ + 1, .object [(some text, value)] => if isEmpty value then resolve text else .error .malformed
  | _, _ => .error .malformed
where
  resolve (text : String) : Except Refusal α :=
    match named text with
    | some value => .ok value
    | none => .error .malformed

/-- Levels of nesting that a text may have. -/
def levelLimit : Nat := 127

def run (reader : Reader α) (text : String) : Except Refusal α :=
  let (document, rest) := Document.ofChars text.toList
  match reader levelLimit document with
  | .error refusal => .error refusal
  | .ok value =>
    match rest with
    | some rest => if (skipSpace rest).isEmpty then .ok value else .error .malformed
    | none => .error .malformed

end Reader

end Json

end SeriesQuery
