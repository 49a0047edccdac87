import SeriesQuery.Json.Document

/-! The reading of JSON text. Every text has a document; where the text goes wrong the document has
a fault. -/

namespace SeriesQuery.Json

def isSpace (c : Char) : Bool :=
  c == ' ' || c == '\n' || c == '\t' || c == '\r'

def skipSpace (cs : List Char) : List Char :=
  cs.dropWhile isSpace

def hexDigit? (c : Char) : Option Nat :=
  if '0' ≤ c ∧ c ≤ '9' then some (c.toNat - '0'.toNat)
  else if 'a' ≤ c ∧ c ≤ 'f' then some (c.toNat - 'a'.toNat + 10)
  else if 'A' ≤ c ∧ c ≤ 'F' then some (c.toNat - 'A'.toNat + 10)
  else none

def hexNumber? (digits : List Char) : Option Nat :=
  digits.foldlM (fun value c => (hexDigit? c).map (16 * value + ·)) 0

/-- A character of a string, or a number of 16 bits given by an escape. -/
inductive StringUnit
  | char (c : Char)
  | code (n : Nat)

def unescape? : Char → Option Char
  | '"' => some '"'
  | '\\' => some '\\'
  | '/' => some '/'
  | 'b' => some '\x08'
  | 'f' => some '\x0c'
  | 'n' => some '\n'
  | 'r' => some '\r'
  | 't' => some '\t'
  | _ => none

/-- The units of a string up to its closing quote, and what follows. -/
def readUnits : List Char → Option (List StringUnit × List Char)
  | [] => none
  | '"' :: rest => some ([], rest)
  | '\\' :: 'u' :: a :: b :: c :: d :: rest => do
    let code ← hexNumber? [a, b, c, d]
    let (units, rest) ← readUnits rest
    return (.code code :: units, rest)
  | '\\' :: c :: rest => do
    let c ← unescape? c
    let (units, rest) ← readUnits rest
    return (.char c :: units, rest)
  | c :: rest =>
    if c.toNat < 0x20 then none
    else do
      let (units, rest) ← readUnits rest
      return (.char c :: units, rest)

def isHighSurrogate (n : Nat) : Bool := decide (0xD800 ≤ n ∧ n < 0xDC00)

def isLowSurrogate (n : Nat) : Bool := decide (0xDC00 ≤ n ∧ n < 0xE000)

/-- The characters that units stand for; none if half of a surrogate pair stands alone. -/
def unitChars? : List StringUnit → Option (List Char)
  | [] => some []
  | .code high :: .code low :: rest =>
    if isHighSurrogate high then
      if isLowSurrogate low then
        (unitChars? rest).map (Char.ofNat (0x10000 + (high - 0xD800) * 0x400 + (low - 0xDC00)) :: ·)
      else none
    else if isLowSurrogate high then none
    else (unitChars? (.code low :: rest)).map (Char.ofNat high :: ·)
  | .code n :: rest =>
    if isHighSurrogate n || isLowSurrogate n then none
    else (unitChars? rest).map (Char.ofNat n :: ·)
  | .char c :: rest => (unitChars? rest).map (c :: ·)

/-- A string after its opening quote: its text, if it has one, and what follows. -/
def readString (cs : List Char) : Option (Option String × List Char) :=
  (readUnits cs).map fun (units, rest) => ((unitChars? units).map .ofList, rest)

def readDigits (cs : List Char) : Option (List Char × List Char) :=
  match cs.takeWhile Char.isDigit with
  | [] => none
  | digits => some (digits, cs.dropWhile Char.isDigit)

def readWhole : List Char → Option (List Char × List Char)
  | '0' :: c :: rest => if c.isDigit then none else some (['0'], c :: rest)
  | cs => readDigits cs

def readFraction : List Char → Option (Option (List Char) × List Char)
  | '.' :: rest => (readDigits rest).map fun (digits, rest) => (some digits, rest)
  | cs => some (none, cs)

def readExponent : List Char → Option (Option (Bool × List Char) × List Char)
  | c :: rest =>
    if c = 'e' ∨ c = 'E' then
      let (negative, rest) :=
        match rest with
        | '-' :: rest => (true, rest)
        | '+' :: rest => (false, rest)
        | rest => (false, rest)
      (readDigits rest).map fun (digits, rest) => (some (negative, digits), rest)
    else some (none, c :: rest)
  | [] => some (none, [])

def readLiteral (cs : List Char) : Option (Literal × List Char) := do
  let (negative, cs) :=
    match cs with
    | '-' :: rest => (true, rest)
    | cs => (false, cs)
  let (whole, cs) ← readWhole cs
  let (fraction, cs) ← readFraction cs
  let (exponent, cs) ← readExponent cs
  return (⟨negative, whole, fraction, exponent⟩, cs)

/-- What a reading step leaves: nothing after a fault, else the characters that follow. -/
abbrev Rest := Option (List Char)

mutual

/-- A document at the front of a text. No two nested steps pass without a character being taken. -/
def readDocument : Nat → List Char → Document × Rest
  | 0, _ => (.fault, none)
  | steps + 1, cs =>
    match skipSpace cs with
    | 'n' :: 'u' :: 'l' :: 'l' :: rest => (.null, some rest)
    | 't' :: 'r' :: 'u' :: 'e' :: rest => (.bool true, some rest)
    | 'f' :: 'a' :: 'l' :: 's' :: 'e' :: rest => (.bool false, some rest)
    | '"' :: rest =>
      match readString rest with
      | some (text, rest) => (.string text, some rest)
      | none => (.fault, none)
    | '[' :: rest =>
      match skipSpace rest with
      | ']' :: rest => (.array [], some rest)
      | rest =>
        let (items, rest) := readItems steps rest
        (.array items, rest)
    | '{' :: rest =>
      match skipSpace rest with
      | '}' :: rest => (.object [], some rest)
      | rest =>
        let (fields, rest) := readFields steps rest
        (.object fields, rest)
    | rest =>
      match readLiteral rest with
      | some (literal, rest) => (.number literal, some rest)
      | none => (.fault, none)

def readItems : Nat → List Char → List Document × Rest
  | 0, _ => ([.fault], none)
  | steps + 1, cs =>
    match readDocument steps cs with
    | (item, none) => ([item], none)
    | (item, some rest) =>
      match skipSpace rest with
      | ']' :: rest => ([item], some rest)
      | ',' :: rest =>
        let (items, rest) := readItems steps rest
        (item :: items, rest)
      | _ => ([item, .fault], none)

def readFields : Nat → List Char → List (Option String × Document) × Rest
  | 0, _ => ([(none, .fault)], none)
  | steps + 1, cs =>
    match readName cs with
    | none => ([(none, .fault)], none)
    | some (name, rest) =>
      match readDocument steps rest with
      | (value, none) => ([(name, value)], none)
      | (value, some rest) =>
        match skipSpace rest with
        | '}' :: rest => ([(name, value)], some rest)
        | ',' :: rest =>
          let (fields, rest) := readFields steps rest
          ((name, value) :: fields, rest)
        | _ => ([(name, value), (none, .fault)], none)
where
  readName (cs : List Char) : Option (Option String × List Char) :=
    match skipSpace cs with
    | '"' :: rest => do
      let (name, rest) ← readString rest
      match skipSpace rest with
      | ':' :: rest => some (name, rest)
      | _ => none
    | _ => none

end

/-- The document at the front of a text, and what follows it; two steps for every character are
enough. -/
def Document.ofChars (cs : List Char) : Document × Rest :=
  readDocument (2 * cs.length + 2) cs

/-- The value that a text is, with the fields of its objects sorted. -/
def parse? (levels : Nat) (text : String) : Option Json :=
  match Document.ofChars text.toList with
  | (document, some rest) =>
    if (skipSpace rest).isEmpty then (document.toJson? levels).map sorted else none
  | (_, none) => none

end SeriesQuery.Json
