import SeriesQuery.Json.Reader

/-!
Records: objects with known fields. A record may also be written as the array of its fields in their
order. Unknown fields are passed over, a known field may come only once, and an absent field has the
value that its description names.
-/

namespace SeriesQuery.Json

/-- The fields of a record in their order, with what has been read so far. -/
inductive Fields : Type → Type 1
  | done : Fields Unit
  | field {α ρ : Type} (name : String) (reader : Reader α) (absent : Option α) (read : Option α)
      (rest : Fields ρ) : Fields (α × ρ)

namespace Fields

variable {α ρ : Type}

def required (name : String) (reader : Reader α) (rest : Fields ρ) : Fields (α × ρ) :=
  .field name reader none none rest

def defaulted (name : String) (reader : Reader α) (absent : α) (rest : Fields ρ) : Fields (α × ρ) :=
  .field name reader (some absent) none rest

/-- A field without a value when it is absent or `null`. -/
def optional (name : String) (reader : Reader α) (rest : Fields ρ) : Fields (Option α × ρ) :=
  defaulted name reader.option none rest

def take {ρ : Type} (levels : Nat) (key : String) (value : Document) :
    Fields ρ → Except Refusal (Fields ρ)
  | .done => (Reader.skip value).map fun _ => .done
  | .field name reader absent read rest =>
    if key = name then
      match read with
      | some _ => .error .malformed
      | none => (reader levels value).map fun value => .field name reader absent (some value) rest
    else (take levels key value rest).map (.field name reader absent read)

def takeAll (levels : Nat) (fields : Fields ρ) :
    List (Option String × Document) → Except Refusal (Fields ρ)
  | [] => .ok fields
  | (none, _) :: _ => .error .malformed
  | (some key, value) :: rest => do
    let fields ← fields.take levels key value
    takeAll levels fields rest

def finish {ρ : Type} : Fields ρ → Except Refusal ρ
  | .done => .ok ()
  | .field _ _ absent read rest =>
    match read.or absent with
    | some value => (finish rest).map (value, ·)
    | none => .error .malformed

/-- The record from the items of an array; fields at the end may be left out if they have a value
when absent, and items behind the last field are passed over or refused. -/
def ofItems {ρ : Type} (surplus : Bool) (levels : Nat) : Fields ρ → List Document → Except Refusal ρ
  | .done, items => if surplus || items.isEmpty then .ok () else .error .malformed
  | .field _ _ absent _ rest, [] =>
    match absent with
    | some value => (ofItems surplus levels rest []).map (value, ·)
    | none => .error .malformed
  | .field _ reader _ _ rest, item :: items => do
    let value ← reader levels item
    (ofItems surplus levels rest items).map (value, ·)

/-- Reads a record; `surplus` tells whether an array may go on behind the last field. -/
def reader (fields : Fields ρ) (surplus : Bool := false) : Reader ρ
  | levels + 1, .object entries => (fields.takeAll levels entries).bind finish
  | levels + 1, .array items => fields.ofItems surplus levels items
  | _, _ => .error .malformed

end Fields

end SeriesQuery.Json
