import SeriesQuery.Toml.Scalar

/-! The reading of TOML text. -/

namespace SeriesQuery.Toml

def isBareKey (c : Char) : Bool :=
  c.isAlphanum || c == '_' || c == '-'

def readKey : Reading String := fun cs =>
  match readString.readLine cs with
  | some (key, rest) => some (key, rest)
  | none =>
    match cs.takeWhile isBareKey with
    | [] => none
    | key => some (.ofList key, cs.dropWhile isBareKey)

/-- Levels of nesting that a text may have, and keys that a dotted key may have. -/
def limit : Nat := 79

def readKeys : Nat → Reading (List String)
  | 0, _ => none
  | steps + 1, cs => do
    let (key, rest) ← readKey (skipSpace cs)
    match skipSpace rest with
    | '.' :: rest =>
      let (keys, rest) ← readKeys steps rest
      return (key :: keys, rest)
    | rest => return ([key], rest)

def readPath : Reading Path := fun cs => do
  let (keys, rest) ← readKeys limit cs
  return (← Path.ofKeys? keys, rest)

def afterComment : List Char → List Char
  | '#' :: rest => rest.dropWhile isPlain
  | cs => cs

/-- What follows the end of a line, before which there may be white space and a comment. -/
def afterLine? (cs : List Char) : Option (List Char) :=
  match afterComment (skipSpace cs) with
  | [] => some []
  | rest => afterNewline? rest

def skipLines : Nat → List Char → List Char
  | 0, cs => cs
  | steps + 1, cs =>
    match skipSpace cs with
    | '#' :: rest => skipLines steps (afterComment ('#' :: rest))
    | rest =>
      match afterNewline? rest with
      | some rest => skipLines steps rest
      | none => rest

mutual

def readValue (levels : Nat) : Nat → Reading Value
  | 0, _ => none
  | steps + 1, cs =>
    match levels, cs with
    | 0, '[' :: _ => none
    | 0, '{' :: _ => none
    | levels + 1, '[' :: rest =>
      match skipLines steps rest with
      | ']' :: rest => some (.array [], rest)
      | rest => (readItems levels steps rest).map fun (items, rest) => (.array items, rest)
    | levels + 1, '{' :: rest => do
      let (added, rest) ← match skipSpace rest with
        | '}' :: rest => some ([], rest)
        | rest => readInline levels steps rest
      return (.inline (← addEntries [] added), rest)
    | _, cs => readScalar cs

/-- The items of an array, at least one, up to its closing bracket; a comma may stand before that.
-/
def readItems (levels : Nat) : Nat → Reading (List Value)
  | 0, _ => none
  | steps + 1, cs => do
    let (item, rest) ← readValue levels steps cs
    match skipLines steps rest with
    | ']' :: rest => return ([item], rest)
    | ',' :: rest =>
      match skipLines steps rest with
      | ']' :: rest => return ([item], rest)
      | rest =>
        let (items, rest) ← readItems levels steps rest
        return (item :: items, rest)
    | _ => none

/-- The entries of a table in braces, at least one, up to its closing brace. -/
def readInline (levels : Nat) : Nat → Reading (List (Path × Value))
  | 0, _ => none
  | steps + 1, cs => do
    let (path, rest) ← readPath cs
    match rest with
    | '=' :: rest =>
      let (value, rest) ← readValue levels steps (skipSpace rest)
      match skipSpace rest with
      | '}' :: rest => return ([(path, value)], rest)
      | ',' :: rest =>
        let (entries, rest) ← readInline levels steps rest
        return ((path, value) :: entries, rest)
      | _ => none
    | _ => none

end

def readEntry : Reading (Path × Value) := fun cs => do
  let (path, rest) ← readPath cs
  let rest ← skipChar '=' rest
  let (value, rest) ← readValue limit (2 * rest.length + 2) (skipSpace rest)
  return ((path, value), ← afterLine? rest)

/-- A header on a line of its own, and whether it is in double brackets. -/
def readHeader : Reading (Path × Bool)
  | '[' :: '[' :: rest => do
    let (path, rest) ← readPath rest
    let rest ← skipChar ']' rest
    let rest ← skipChar ']' rest
    return ((path, true), ← afterLine? rest)
  | '[' :: rest => do
    let (path, rest) ← readPath rest
    let rest ← skipChar ']' rest
    return ((path, false), ← afterLine? rest)
  | _ => none

def readSections : Nat → List Char → Option (List (Path × Value) × List Section)
  | 0, _ => none
  | steps + 1, cs =>
    match skipLines cs.length cs with
    | [] => some ([], [])
    | '[' :: rest => do
      let ((path, repeated), rest) ← readHeader ('[' :: rest)
      let (entries, sections) ← readSections steps rest
      return ([], ⟨path, repeated, entries⟩ :: sections)
    | rest => do
      let (entry, rest) ← readEntry rest
      let (entries, sections) ← readSections steps rest
      return (entry :: entries, sections)

/-- The table that a text is. A byte order mark may stand before it. -/
def parse? (text : String) : Option Entries := do
  let cs := match text.toList with
    | '\ufeff' :: rest => rest
    | cs => cs
  let (entries, sections) ← readSections (cs.length + 1) cs
  assemble entries sections

end SeriesQuery.Toml
