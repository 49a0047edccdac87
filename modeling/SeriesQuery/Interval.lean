import SeriesQuery.Number.Binary64
import SeriesQuery.Text.CodePoint

/-! Interval literals: an amount directly followed by a unit, such as 30s, 1.5h or 500ms, read as
seconds. -/

namespace SeriesQuery

namespace Interval

inductive Unit
  | milliseconds
  | seconds
  | minutes
  | hours
  | days
  | weeks
  /-- Months of thirty days. -/
  | months
  /-- Years of 365 days. -/
  | years
deriving DecidableEq

namespace Unit

def ofChars? : List Char → Option Unit
  | ['m', 's'] => some milliseconds
  | ['s'] => some seconds
  | ['m'] => some minutes
  | ['h'] => some hours
  | ['d'] => some days
  | ['w'] => some weeks
  | ['M'] => some months
  | ['y'] => some years
  | _ => none

/-- Whole seconds of a unit; none for the one unit that is shorter. -/
def wholeSeconds? : Unit → Option Nat
  | milliseconds => none
  | seconds => some 1
  | minutes => some 60
  | hours => some 3600
  | days => some 86400
  | weeks => some 604800
  | months => some 2592000
  | years => some 31536000

def factor (unit : Unit) : Magnitude :=
  match unit.wholeSeconds? with
  | some n => .ofRatio n 1
  | none => .ofRatio 1 1000

end Unit

structure Amount where
  whole : List Char
  fraction : List Char

def Amount.chars (a : Amount) : List Char :=
  if a.fraction.isEmpty then a.whole else a.whole ++ '.' :: a.fraction

/-- The amount at the front of a text and what follows it. A point counts only with digits on both
sides. -/
def amount? (cs : List Char) : Option (Amount × List Char) :=
  match cs.takeWhile Char.isDigit, cs.dropWhile Char.isDigit with
  | [], _ => none
  | whole, '.' :: rest =>
    match rest.takeWhile Char.isDigit with
    | [] => some (⟨whole, []⟩, '.' :: rest)
    | fraction => some (⟨whole, fraction⟩, rest.dropWhile Char.isDigit)
  | whole, rest => some (⟨whole, []⟩, rest)

inductive Fault
  /-- The literal, without the white space around it, still names a variable. -/
  | unresolved (literal : String)
  | malformed (literal : String)
  | unreadable (literal : String)
  | absent
  /-- A reading other than this one gave its own reason. -/
  | other (reason : String)
deriving DecidableEq

def Fault.explanation : Fault → String
  | unresolved literal => "unresolved template variable '" ++ literal ++ "'"
  | malformed literal =>
    "'" ++ literal ++ "', expecting a number followed by one of ms, s, m, h, d, w, M, y"
  | unreadable literal => literal
  | absent => "time clause has no interval"
  | other reason => reason

def namesVariable : List Char → Bool
  | '$' :: _ => true
  | '[' :: '[' :: _ => true
  | _ => false

/-- Seconds of a literal, which may have white space around it. -/
def seconds (literal : String) : Except Fault Binary64 :=
  let cs := Text.trimmed literal.toList
  if namesVariable cs then .error (.unresolved (.ofList cs))
  else
    match amount? cs with
    | none => .error (.malformed literal)
    | some (amount, rest) =>
      match Unit.ofChars? rest with
      | none => .error (.malformed literal)
      | some unit =>
        match Binary64.ofDecimal? amount.chars with
        | none => .error (.unreadable literal)
        | some x => .ok (x.scaleBy unit.factor)

end Interval

end SeriesQuery
