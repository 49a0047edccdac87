import SeriesQuery.Json.Document

/-!
TOML values, and tables put together from what a text says about them. A table may be defined only
once: by a header, by braces, or bit by bit through dotted keys.
-/

namespace SeriesQuery.Toml

/-- How a table came about, which decides what may still be added to it. -/
inductive Origin
  | declared
  | implied
  | dotted
deriving DecidableEq

inductive Value
  | string (text : String)
  | integer (value : Int)
  | float (literal : Json.Literal)
  /-- An infinity, or no number. -/
  | indefinite
  | boolean (value : Bool)
  /-- A date, a time of day or both. -/
  | moment (text : String)
  | array (items : List Value)
  /-- A table in braces, to which nothing can be added. -/
  | inline (entries : List (String × Value))
  | table (origin : Origin) (entries : List (String × Value))
  /-- The tables of one header in double brackets. -/
  | tables (items : List (List (String × Value)))

abbrev Entries := List (String × Value)

def setEntry (key : String) (value : Value) : Entries → Entries
  | [] => [(key, value)]
  | (other, old) :: rest =>
    if other = key then (key, value) :: rest else (other, old) :: setEntry key value rest

/-- Changes the table that a path leads to; tables on the way that are not there are made. A path
through the header of many tables leads into the last of them. A path of a dotted key does not lead
through tables with a header. -/
def within (created : Origin) (update : Origin → Entries → Option Entries) :
    List String → Origin → Entries → Option Entries
  | [], origin, entries => update origin entries
  | key :: path, _, entries =>
    match entries.lookup key with
    | none => do
      let inner ← within created update path created []
      return setEntry key (.table created inner) entries
    | some (.table origin inner) =>
      if created = .dotted ∧ origin = .declared then none
      else do
        let inner ← within created update path origin inner
        return setEntry key (.table origin inner) entries
    | some (.tables items) => do
      let inner ← within created update path .declared (← items.getLast?)
      return setEntry key (.tables (items.dropLast ++ [inner])) entries
    | some _ => none

structure Path where
  parents : List String
  key : String

def Path.ofKeys? (keys : List String) : Option Path :=
  keys.getLast?.map fun key => ⟨keys.dropLast, key⟩

/-- Adds a value that was not there. A table made by dotted keys is filled by dotted keys alone. -/
def addEntry (path : Path) (value : Value) (entries : Entries) : Option Entries :=
  within .dotted
    (fun origin entries =>
      if (origin = .dotted ↔ path.parents = []) ∨ (entries.lookup path.key).isSome then none
      else some (setEntry path.key value entries))
    path.parents .declared entries

def addEntries (entries : Entries) (added : List (Path × Value)) : Option Entries :=
  added.foldlM (fun entries (path, value) => addEntry path value entries) entries

structure Section where
  path : Path
  repeated : Bool
  entries : List (Path × Value)

/-- Adds the table of a header. A single header may come once, after tables within it but not after
its own dotted keys. -/
def addSection (root : Entries) (s : Section) : Option Entries :=
  within .implied
    (fun _ entries => do
      let value ← match s.repeated, entries.lookup s.path.key with
        | true, none => do pure (Value.tables [← addEntries [] s.entries])
        | true, some (.tables items) => do
          pure (Value.tables (items ++ [← addEntries [] s.entries]))
        | false, none => do pure (Value.table .declared (← addEntries [] s.entries))
        | false, some (.table .implied inner) => do
          pure (Value.table .declared (← addEntries inner s.entries))
        | _, _ => none
      return setEntry s.path.key value entries)
    s.path.parents .declared root

/-- The table of a whole text, from the entries before the first header and the sections after it.
-/
def assemble (entries : List (Path × Value)) (sections : List Section) : Option Entries := do
  let root ← addEntries [] entries
  sections.foldlM addSection root

open Json (Document)

mutual

/-- The value as a document. A moment is a table of its own kind; an infinity is no number. -/
def Value.toDocument : Value → Document
  | .string text => .string (some text)
  | .integer value => .number ⟨decide (value < 0), Nat.toDigits 10 value.natAbs, none, none⟩
  | .float literal => .number literal
  | .indefinite => .null
  | .boolean value => .bool value
  | .moment text => .object [(some "moment", .string (some text))]
  | .array items => .array (itemsToDocument items)
  | .inline entries => .object (entriesToDocument entries)
  | .table _ entries => .object (entriesToDocument entries)
  | .tables items => .array (tablesToDocument items)

def itemsToDocument : List Value → List Document
  | [] => []
  | item :: rest => item.toDocument :: itemsToDocument rest

def entriesToDocument : List (String × Value) → List (Option String × Document)
  | [] => []
  | (key, value) :: rest => (some key, value.toDocument) :: entriesToDocument rest

def tablesToDocument : List (List (String × Value)) → List Document
  | [] => []
  | entries :: rest => .object (entriesToDocument entries) :: tablesToDocument rest

end

end SeriesQuery.Toml
