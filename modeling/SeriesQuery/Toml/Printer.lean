import SeriesQuery.Toml.Scalar

/-!
Strings in TOML text. Of the ways to quote a text the plainest one is taken that needs no escape:
basic, literal, basic on several lines, literal on several lines. A text that needs an escape in any
case is basic.
-/

namespace SeriesQuery.Toml

/-- A control character other than a tab or a line end, which only an escape can give. -/
def needsEscape (c : Char) : Bool :=
  decide (c.toNat < 0x20 ∨ c.toNat = 0x7F) && c != '\t' && c != '\n'

def longestRun (of : Char) (cs : List Char) : Nat :=
  (cs.foldl (fun (run, longest) c =>
    let run := if c = of then run + 1 else 0
    (run, max run longest)) (0, 0)).2

def quotingOf (cs : List Char) : Quoting :=
  let lines := cs.contains '\n'
  let backslash := cs.contains '\\'
  let double := longestRun '"' cs
  let single := longestRun '\x27' cs
  if cs.any needsEscape then if lines then .basicLines else .basic
  else if !lines && !backslash && double == 0 then .basic
  else if !lines && single == 0 then .literal
  else if !backslash && decide (double ≤ 2) then .basicLines
  else if single ≤ 2 then .literalLines
  else if lines then .basicLines else .basic

def escape? (lines : Bool) : Char → Option (List Char)
  | '\x08' => some ['\\', 'b']
  | '\t' => some ['\\', 't']
  | '\n' => if lines then none else some ['\\', 'n']
  | '\x0c' => some ['\\', 'f']
  | '\r' => some ['\\', 'r']
  | '\\' => some ['\\', '\\']
  | c =>
    if needsEscape c then
      let digits := (Nat.toDigits 16 c.toNat).map Char.toUpper
      some (['\\', 'u'] ++ List.replicate (4 - digits.length) '0' ++ digits)
    else none

/-- The characters of a basic string, of which so many quotes in direct succession were written
last. On one line every quote is escaped, on several lines every third one. -/
def escaped (lines : Bool) : Nat → List Char → List Char
  | _, [] => []
  | quotes, c :: cs =>
    if c = '"' then
      if lines && decide (quotes < 2) then c :: escaped lines (quotes + 1) cs
      else '\\' :: c :: escaped lines 0 cs
    else
      match escape? lines c with
      | some escape => escape ++ escaped lines 0 cs
      | none => c :: escaped lines 0 cs

def stringText (s : String) : String :=
  let cs := s.toList
  let q := quotingOf cs
  let quotes := List.replicate (if q.spansLines then 3 else 1) q.quote
  let start := if q.spansLines && cs.contains '\n' then ['\n'] else []
  .ofList (quotes ++ start ++ (if q.escapes then escaped q.spansLines 0 cs else cs) ++ quotes)

def sectionText (header : String) (entries : List (String × String)) : String :=
  "[" ++ header ++ "]\n" ++ String.join (entries.map fun (key, value) =>
    key ++ " = " ++ stringText value ++ "\n")

end SeriesQuery.Toml
