import SeriesQuery.Number.Shortest

/-!
Numbers of JSON: whole numbers of 64 bits, with or without a sign, and finite doubles. The reading
of a literal with a fraction or an exponent rounds its digits and its power of ten separately, so it
is not the nearest double.
-/

namespace SeriesQuery.Json

inductive Number
  | integer (value : Int) (fits : -0x8000000000000000 ≤ value ∧ value < 0x10000000000000000)
  | real (negative : Bool) (magnitude : Magnitude)
deriving DecidableEq

structure Literal where
  negative : Bool
  whole : List Char
  fraction : Option (List Char)
  /-- Whether the exponent has a minus sign, and its digits. -/
  exponent : Option (Bool × List Char)
deriving DecidableEq

/-- Appends digits to a number as long as it stays within the bound, and counts the digits it took.
-/
def appendDigits (bound : Nat) : Nat → List Char → Nat × Nat
  | value, [] => (value, 0)
  | value, c :: cs =>
    let next := 10 * value + digitValue c
    if next ≤ bound then
      let (result, count) := appendDigits bound next cs
      (result, count + 1)
    else (value, 0)

/-- The digits of a literal as a 64-bit number and a power of ten. Digits that no longer fit are
dropped; dropped whole digits raise the power. -/
def Literal.significand (l : Literal) : Nat × Int :=
  let (value, taken) := appendDigits 0xFFFFFFFFFFFFFFFF 0 l.whole
  let raised : Int := l.whole.length - taken
  match l.fraction with
  | none => (value, raised)
  | some digits =>
    let (value, taken) := appendDigits 0xFFFFFFFFFFFFFFFF value digits
    (value, raised - taken)

inductive Exponent
  | fits (value : Int)
  | tooLarge
  | tooSmall

def Literal.exponentValue (l : Literal) : Exponent :=
  match l.exponent with
  | none => .fits 0
  | some (negative, digits) =>
    let (value, taken) := appendDigits 0x7FFFFFFF 0 digits
    if taken = digits.length then .fits (if negative then -value else value)
    else if negative then .tooSmall else .tooLarge

def shrink : Nat → Binary64 → Binary64
  | 0, x => x
  | steps + 1, x => if x.isZero then x else shrink steps (x.divideBy (.ofRatio (tenPow 308) 1))

/-- A significand times a power of ten: one product, or one quotient for a negative power, after as
many quotients by 10^308 as the power needs. -/
def scaled (significand : Nat) (power : Int) : Binary64 :=
  let x := Binary64.ofInt significand
  match power with
  | .ofNat n =>
    if n ≤ 308 then x.scaleBy (.ofRatio (tenPow n) 1)
    else if significand = 0 then x
    else .infinite false
  | .negSucc n => (shrink (n / 308) x).divideBy (.ofRatio (tenPow (n % 308 + 1)) 1)

def Literal.toNumber? (l : Literal) : Option Number :=
  let (significand, power) := l.significand
  match l.fraction, l.exponent, power with
  | none, none, 0 =>
    let value : Int := if l.negative then -significand else significand
    if h : (-0x8000000000000000 ≤ value ∧ value < 0x10000000000000000) ∧
        ¬ (l.negative ∧ significand = 0) then
      some (.integer value h.1)
    else
      match Binary64.ofInt significand with
      | .finite _ magnitude => some (.real l.negative magnitude)
      | .infinite _ => none
  | _, _, _ =>
    match l.exponentValue with
    | .tooLarge => if significand = 0 then some (.real l.negative .zero) else none
    | .tooSmall => some (.real l.negative .zero)
    | .fits exponent =>
      match scaled significand (power + exponent) with
      | .finite _ magnitude => some (.real l.negative magnitude)
      | .infinite _ => none

/-- A number is written positionally from 10^-5 up to 10^16. -/
def positional (exponent : Int) : Bool :=
  decide (-5 ≤ exponent ∧ exponent < 16)

/-- Digits with the decimal point at a place counted from the first of them; a whole number keeps
one zero after the point. -/
def pointed (digits : List Char) (point : Int) : List Char :=
  match point with
  | .ofNat 0 => '0' :: '.' :: digits
  | .ofNat n =>
    if digits.length ≤ n then digits ++ List.replicate (n - digits.length) '0' ++ ['.', '0']
    else digits.take n ++ '.' :: digits.drop n
  | .negSucc n => '0' :: '.' :: List.replicate (n + 1) '0' ++ digits

/-- One digit before the point, the others after it, and an exponent with its sign. -/
def scientific (digits : List Char) (exponent : Int) : List Char :=
  let mantissa :=
    match digits with
    | first :: second :: rest => first :: '.' :: second :: rest
    | short => short
  mantissa ++ 'e' :: (if exponent < 0 then '-' else '+') :: Nat.toDigits 10 exponent.natAbs

def magnitudeText (x : Magnitude) : List Char :=
  if x.isZero then ['0', '.', '0']
  else
    let (digits, point) := x.shortest
    if positional (point - 1) then pointed digits point else scientific digits (point - 1)

def signed (negative : Bool) (text : List Char) : List Char :=
  if negative then '-' :: text else text

def Number.chars : Number → List Char
  | .integer value _ => signed (decide (value < 0)) (Nat.toDigits 10 value.natAbs)
  | .real negative magnitude => signed negative (magnitudeText magnitude)

def Number.text (n : Number) : String := .ofList n.chars

def Number.toBinary64 : Number → Binary64
  | .integer value _ => .ofInt value
  | .real negative magnitude => .finite negative magnitude

end SeriesQuery.Json
