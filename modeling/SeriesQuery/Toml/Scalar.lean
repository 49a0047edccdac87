import SeriesQuery.Json.Parse
import SeriesQuery.Toml.Basic

/-! Strings, numbers and moments of TOML. A reading gives what stands at the front of a text, and
the rest. -/

namespace SeriesQuery.Toml

abbrev Reading (α : Type) := List Char → Option (α × List Char)

def isSpace (c : Char) : Bool :=
  c == ' ' || c == '\t'

def skipSpace (cs : List Char) : List Char :=
  cs.dropWhile isSpace

def afterNewline? : List Char → Option (List Char)
  | '\n' :: rest => some rest
  | '\r' :: '\n' :: rest => some rest
  | _ => none

def isPlain (c : Char) : Bool :=
  c == '\t' || decide (0x20 ≤ c.toNat ∧ c.toNat ≠ 0x7F)

def scalar? (digits : List Char) : Option Char := do
  let n ← Json.hexNumber? digits
  if n.isValidChar then some (Char.ofNat n) else none

def readEscape : Reading Char
  | 'b' :: rest => some ('\x08', rest)
  | 't' :: rest => some ('\t', rest)
  | 'n' :: rest => some ('\n', rest)
  | 'f' :: rest => some ('\x0c', rest)
  | 'r' :: rest => some ('\r', rest)
  | '"' :: rest => some ('"', rest)
  | '\\' :: rest => some ('\\', rest)
  | 'u' :: a :: b :: c :: d :: rest => (scalar? [a, b, c, d]).map (·, rest)
  | 'U' :: a :: b :: c :: d :: e :: f :: g :: h :: rest =>
    (scalar? [a, b, c, d, e, f, g, h]).map (·, rest)
  | _ => none

/-- How many characters an escape takes after its backslash. -/
def escapeLength : List Char → Nat
  | 'u' :: _ => 5
  | 'U' :: _ => 9
  | _ => 1

inductive Quoting
  | basic
  | literal
  | basicLines
  | literalLines
deriving DecidableEq

namespace Quoting

def quote : Quoting → Char
  | basic | basicLines => '"'
  | literal | literalLines => '\x27'

def escapes : Quoting → Bool
  | basic | basicLines => true
  | _ => false

def spansLines : Quoting → Bool
  | basicLines | literalLines => true
  | _ => false

end Quoting

/-- A backslash at the end of a line, which takes the white space up to the next character with it.
-/
def continues (cs : List Char) : Bool :=
  (afterNewline? (skipSpace cs)).isSome

/-- What the reading of a string has still to do before the next character counts. -/
inductive Pending
  | nothing
  /-- So many characters belong to an escape already read. -/
  | characters (n : Nat)
  /-- White space after a backslash at the end of a line. -/
  | blank
deriving DecidableEq

/-- The text of a string after its opening quotes. Up to two quotes may stand before the closing
ones of a string on several lines. -/
def readText (q : Quoting) : Pending → List Char → Option (List Char × List Char)
  | _, [] => none
  | .characters (n + 1), _ :: cs => readText q (.characters n) cs
  | pending, c :: cs =>
    if pending = .blank ∧ (isSpace c ∨ (afterNewline? (c :: cs)).isSome) then readText q .blank cs
    else if c = q.quote then
      if q.spansLines then
        let quotes := (c :: cs).takeWhile (· == q.quote)
        if quotes.length < 3 then (readText q .nothing cs).map fun (text, rest) => (c :: text, rest)
        else
          let kept := min (quotes.length - 3) 2
          some (List.replicate kept c, (c :: cs).drop (kept + 3))
      else some ([], cs)
    else if c = '\\' ∧ q.escapes then
      if q.spansLines ∧ continues cs then readText q .blank cs
      else do
        let (escaped, _) ← readEscape cs
        let (text, rest) ← readText q (.characters (escapeLength cs)) cs
        return (escaped :: text, rest)
    else if q.spansLines ∧ (afterNewline? (c :: cs)).isSome then
      (readText q (if c = '\r' then .characters 1 else .nothing) cs).map fun (text, rest) =>
        ('\n' :: text, rest)
    else if isPlain c then (readText q .nothing cs).map fun (text, rest) => (c :: text, rest)
    else none

/-- A string with its quotes. The line end after the opening quotes of a string on several lines
does not count. -/
def readString : Reading String
  | '"' :: '"' :: '"' :: rest => lines .basicLines rest
  | '\x27' :: '\x27' :: '\x27' :: rest => lines .literalLines rest
  | cs => readLine cs
where
  lines (q : Quoting) (cs : List Char) : Option (String × List Char) :=
    (readText q .nothing ((afterNewline? cs).getD cs)).map fun (text, rest) => (.ofList text, rest)
  readLine : Reading String
    | '"' :: rest => (readText .basic .nothing rest).map fun (text, rest) => (.ofList text, rest)
    | '\x27' :: rest =>
      (readText .literal .nothing rest).map fun (text, rest) => (.ofList text, rest)
    | _ => none

/-- Digits at the front of a text, with single low lines between them left out. -/
def readDigits (isDigit : Char → Bool) : List Char → Option (List Char × List Char)
  | [] => none
  | [c] => if isDigit c then some ([c], []) else none
  | c :: '_' :: rest =>
    if isDigit c then (readDigits isDigit rest).map fun (digits, rest) => (c :: digits, rest)
    else none
  | c :: next :: rest =>
    if !isDigit c then none
    else if isDigit next then
      (readDigits isDigit (next :: rest)).map fun (digits, rest) => (c :: digits, rest)
    else some ([c], next :: rest)

def readSign : List Char → Bool × List Char
  | '-' :: rest => (true, rest)
  | '+' :: rest => (false, rest)
  | cs => (false, cs)

/-- The whole part of a decimal number, which has no zero in front of other digits. -/
def readWhole : Reading (List Char)
  | '0' :: rest => some (['0'], rest)
  | cs => readDigits Char.isDigit cs

def readFraction : List Char → Option (List Char) × List Char
  | '.' :: rest =>
    match readDigits Char.isDigit rest with
    | some (digits, rest) => (some digits, rest)
    | none => (none, '.' :: rest)
  | cs => (none, cs)

def readExponent : List Char → Option (Bool × List Char) × List Char
  | c :: rest =>
    let (negative, digits) := readSign rest
    match c == 'e' || c == 'E', readDigits Char.isDigit digits with
    | true, some (digits, rest) => (some (negative, digits), rest)
    | _, _ => (none, c :: rest)
  | [] => (none, [])

/-- Positive literals from about 10^308 on have no finite double. -/
def overflows (l : Json.Literal) : Bool :=
  let digits := (l.whole ++ l.fraction.getD []).dropWhile (· == '0')
  let power : Int := (match l.exponent with
    | none => 0
    | some (negative, digits) => if negative then -(ofDigits digits : Int) else ofDigits digits) -
    (l.fraction.getD []).length
  if l.negative || digits.isEmpty || digits.length + power < 300 then false
  else if 400 < digits.length + power then true
  else
    (Magnitude.ofUnits? (ofDigits digits * tenPow power.toNat * Magnitude.oneUnits)
      (tenPow (-power).toNat)).isNone

def fitsInteger (value : Int) : Bool :=
  decide (-0x8000000000000000 ≤ value ∧ value < 0x8000000000000000)

def readDecimal : Reading Value := fun cs => do
  let (negative, cs) := readSign cs
  match cs with
  | 'i' :: 'n' :: 'f' :: rest => some (.indefinite, rest)
  | 'n' :: 'a' :: 'n' :: rest => some (.indefinite, rest)
  | cs =>
    let (whole, cs) ← readWhole cs
    let (fraction, cs) := readFraction cs
    let (exponent, cs) := readExponent cs
    let literal : Json.Literal := ⟨negative, whole, fraction, exponent⟩
    if fraction.isSome || exponent.isSome then
      if overflows literal then none else some (.float literal, cs)
    else
      let value : Int := ofDigits whole
      let value := if negative then -value else value
      if fitsInteger value then some (.integer value, cs) else none

def readRadix (radix : Nat) : Reading Value := fun cs => do
  let isDigit (c : Char) := (Json.hexDigit? c).any fun n => decide (n < radix)
  let (digits, rest) ← readDigits isDigit cs
  let value := digits.foldl (fun value c => radix * value + (Json.hexDigit? c).getD 0) 0
  if fitsInteger value then some (.integer value, rest) else none

def readNumber : Reading Value
  | '0' :: 'x' :: rest => readRadix 16 rest
  | '0' :: 'o' :: rest => readRadix 8 rest
  | '0' :: 'b' :: rest => readRadix 2 rest
  | cs => readDecimal cs

def readField (width low high : Nat) : Reading Nat := fun cs =>
  let digits := cs.take width
  let n := ofDigits digits
  if digits.length = width ∧ digits.all Char.isDigit ∧ low ≤ n ∧ n ≤ high then
    some (n, cs.drop width)
  else none

def skipChar (c : Char) : List Char → Option (List Char)
  | first :: rest => if first = c then some rest else none
  | [] => none

def daysIn (year month : Nat) : Nat :=
  if month = 2 then
    if year % 4 = 0 ∧ (year % 100 ≠ 0 ∨ year % 400 = 0) then 29 else 28
  else if [4, 6, 9, 11].contains month then 30
  else 31

def afterDate? (cs : List Char) : Option (List Char) := do
  let (year, cs) ← readField 4 0 9999 cs
  let cs ← skipChar '-' cs
  let (month, cs) ← readField 2 1 12 cs
  let cs ← skipChar '-' cs
  let (_, cs) ← readField 2 1 (daysIn year month) cs
  return cs

/-- What follows a time of day, whose last minute may have a second more. -/
def afterTime? (cs : List Char) : Option (List Char) := do
  let (_, cs) ← readField 2 0 23 cs
  let cs ← skipChar ':' cs
  let (_, cs) ← readField 2 0 59 cs
  let cs ← skipChar ':' cs
  let (_, cs) ← readField 2 0 60 cs
  match cs with
  | '.' :: rest => if rest.head?.any Char.isDigit then some (rest.dropWhile Char.isDigit) else none
  | _ => some cs

def afterOffset (cs : List Char) : List Char :=
  match cs with
  | 'Z' :: rest => rest
  | 'z' :: rest => rest
  | c :: rest =>
    if c = '+' ∨ c = '-' then
      ((do
        let (_, rest) ← readField 2 0 23 rest
        let rest ← skipChar ':' rest
        let (_, rest) ← readField 2 0 59 rest
        return rest) : Option (List Char)).getD cs
    else cs
  | [] => []

/-- What follows a moment: a date, perhaps with a time and its offset, or a time alone. -/
def afterMoment? (cs : List Char) : Option (List Char) :=
  match afterDate? cs with
  | some (separator :: rest) =>
    if separator = 'T' ∨ separator = 't' ∨ separator = ' ' then
      match afterTime? rest with
      | some rest => some (afterOffset rest)
      | none => some (separator :: rest)
    else some (separator :: rest)
  | some [] => some []
  | none => afterTime? cs

def readMoment : Reading Value := fun cs =>
  (afterMoment? cs).map fun rest => (.moment (.ofList (cs.take (cs.length - rest.length))), rest)

def readScalar : Reading Value
  | 't' :: 'r' :: 'u' :: 'e' :: rest => some (.boolean true, rest)
  | 'f' :: 'a' :: 'l' :: 's' :: 'e' :: rest => some (.boolean false, rest)
  | cs =>
    match readString cs with
    | some (text, rest) => some (.string text, rest)
    | none => (readMoment cs).or (readNumber cs)

end SeriesQuery.Toml
