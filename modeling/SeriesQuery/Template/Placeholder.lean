import SeriesQuery.Text.Word

/-!
Placeholders of variables in a text: `$name`, `[[name]]`, `[[name:format]]`, `${name}` and
`${name:format}`. A text is divided from left to right into placeholders and single characters.
-/

namespace SeriesQuery.Template

structure Placeholder where
  name : List Char
  format : Option (List Char)
  /-- The placeholder as it is written. -/
  source : List Char
deriving DecidableEq

namespace Placeholder

/-- A name, perhaps a format, and the closing characters; `opening` is what stands before the name.
-/
def enclosed? (opening closing cs : List Char) : Option Placeholder :=
  let name := cs.takeWhile Text.isWord
  let rest := cs.dropWhile Text.isWord
  if name.isEmpty then none
  else
    match rest with
    | ':' :: rest =>
      let format := rest.takeWhile Text.isWord
      if !format.isEmpty && closing.isPrefixOf (rest.dropWhile Text.isWord) then
        some ⟨name, some format, opening ++ name ++ ':' :: format ++ closing⟩
      else none
    | rest =>
      if closing.isPrefixOf rest then some ⟨name, none, opening ++ name ++ closing⟩ else none

/-- The placeholder at the very front of a text. -/
def atFront? : List Char → Option Placeholder
  | '$' :: '{' :: rest => enclosed? ['$', '{'] ['}'] rest
  | '$' :: rest =>
    let name := rest.takeWhile Text.isWord
    if name.isEmpty then none else some ⟨name, none, '$' :: name⟩
  | '[' :: '[' :: rest => enclosed? ['[', '['] [']', ']'] rest
  | _ => none

end Placeholder

/-- A character, or a placeholder taken as a whole. -/
inductive Segment
  | char (c : Char)
  | placeholder (p : Placeholder)
deriving DecidableEq

/-- The segments of a text after some characters that are passed over because a placeholder has
taken them. -/
def segmentsAfter : Nat → List Char → List Segment
  | _, [] => []
  | skipped + 1, _ :: cs => segmentsAfter skipped cs
  | 0, c :: cs =>
    match Placeholder.atFront? (c :: cs) with
    | some p => .placeholder p :: segmentsAfter (p.source.length - 1) cs
    | none => .char c :: segmentsAfter 0 cs

def segments (cs : List Char) : List Segment :=
  segmentsAfter 0 cs

theorem segmentsAfter_eq_drop (n : Nat) (cs : List Char) :
    segmentsAfter n cs = segments (cs.drop n) := by
  induction cs generalizing n with
  | nil => cases n <;> rfl
  | cons c cs ih =>
    cases n with
    | zero => rfl
    | succ n => exact ih n

end SeriesQuery.Template
