import Mathlib.Data.List.TakeWhile
import SeriesQuery.Catalog.Part
import SeriesQuery.GroupBy.Basic

/-!
The text of a group-by expression. The expressions that can be written down are those with a name
of identifier characters and an argument on one line. Exactly their texts are read, each as the
expression that it was written from.
-/

namespace SeriesQuery

namespace GroupBy

/-- A text of one or more identifier characters. -/
def IsName (name : String) : Prop :=
  name.toList ≠ [] ∧ ∀ c ∈ name.toList, Text.isIdentifier c = true

/-- A text without line breaks. -/
def OneLine (argument : String) : Prop :=
  '\n' ∉ argument.toList ∧ '\r' ∉ argument.toList

instance (name : String) : Decidable (IsName name) :=
  decidable_of_iff (name.toList ≠ [] ∧ name.toList.all Text.isIdentifier = true)
    (and_congr_right fun _ => List.all_eq_true)

instance (argument : String) : Decidable (OneLine argument) :=
  inferInstanceAs (Decidable (_ ∧ _))

namespace Expression

def text (e : Expression) : String :=
  e.name ++ "(" ++ e.argument ++ ")"

/-- An expression that its text stands for. -/
structure WellFormed (e : Expression) : Prop where
  name : IsName e.name
  argument : OneLine e.argument

variable {e : Expression} {cs argument name : List Char} {text : String}

theorem toList_text (e : Expression) :
    e.text.toList = e.name.toList ++ '(' :: (e.argument.toList ++ [')']) := by
  simp [Expression.text]

theorem unclosed?_eq_some_iff :
    unclosed? cs = some argument ↔
      cs = argument ++ [')'] ∧ '\n' ∉ argument ∧ '\r' ∉ argument := by
  unfold unclosed?
  constructor
  · intro h
    split at h
    · next hcs =>
      obtain ⟨hlast, hlines⟩ := hcs
      obtain ⟨front, rfl⟩ := List.getLast?_eq_some_iff.1 hlast
      rw [List.dropLast_concat, Option.some.injEq] at h
      subst h
      exact ⟨rfl, by simpa using hlines⟩
    · cases h
  · rintro ⟨rfl, hlines⟩
    have hcs : (argument ++ [')']).getLast? = some ')' ∧ !(argument ++ [')']).contains '\n' ∧
        !(argument ++ [')']).contains '\r' := ⟨List.getLast?_concat, by simpa using hlines⟩
    rw [if_pos hcs, List.dropLast_concat]

theorem span_name (h : ∀ c ∈ name, Text.isIdentifier c = true) (rest : List Char) :
    (name ++ '(' :: rest).takeWhile Text.isIdentifier = name ∧
      (name ++ '(' :: rest).dropWhile Text.isIdentifier = '(' :: rest := by
  have hparen : Text.isIdentifier '(' = false := by decide
  rw [List.takeWhile_append_of_pos h, List.dropWhile_append_of_pos h]
  simp [hparen]

/-- What is read is a name, the argument in parentheses and nothing else. -/
theorem ofChars?_eq_some_iff :
    ofChars? cs = some e ↔ e.WellFormed ∧ e.text.toList = cs := by
  rw [toList_text]
  constructor
  · intro h
    have hcs := List.takeWhile_append_dropWhile (p := Text.isIdentifier) (l := cs)
    have hname : ∀ c ∈ cs.takeWhile Text.isIdentifier, Text.isIdentifier c = true :=
      List.all_eq_true.1 List.all_takeWhile
    unfold ofChars? at h
    split at h
    · cases h
    · next hdrop hne =>
      obtain ⟨argument, hargument, rfl⟩ := Option.map_eq_some_iff.1 h
      obtain ⟨rfl, hlines⟩ := unclosed?_eq_some_iff.1 hargument
      rw [hdrop] at hcs
      refine ⟨⟨⟨?_, ?_⟩, ?_⟩, ?_⟩
      · rw [String.toList_ofList]
        exact hne
      · rw [String.toList_ofList]
        exact hname
      · rw [OneLine, String.toList_ofList]
        exact hlines
      · rw [String.toList_ofList, String.toList_ofList]
        exact hcs
    · cases h
  · rintro ⟨⟨⟨hne, hname⟩, hlines⟩, rfl⟩
    obtain ⟨htake, hdrop⟩ := span_name hname (e.argument.toList ++ [')'])
    have hclosed : unclosed? (e.argument.toList ++ [')']) = some e.argument.toList :=
      unclosed?_eq_some_iff.2 ⟨rfl, hlines⟩
    unfold ofChars?
    rw [htake, hdrop]
    split
    · next hnil => exact absurd hnil hne
    · next hrest _ =>
      cases hrest
      simp [hclosed]
    · next hno => exact absurd rfl (hno _)

theorem ofText_eq_ok_iff : ofText text = .ok e ↔ e.WellFormed ∧ e.text = text := by
  rw [← String.toList_inj, ← ofChars?_eq_some_iff]
  unfold ofText
  cases ofChars? text.toList <;> simp

theorem ofText_eq_error_iff {error : Error} :
    ofText text = .error error ↔
      (∀ e : Expression, e.WellFormed → e.text ≠ text) ∧ error = .notAnExpression text := by
  have hnone : ofChars? text.toList = none ↔ ∀ e : Expression, e.WellFormed → e.text ≠ text := by
    rw [Option.eq_none_iff_forall_ne_some]
    refine forall_congr' fun e => ?_
    rw [Ne, ofChars?_eq_some_iff, String.toList_inj, not_and]
  rw [← hnone]
  unfold ofText
  cases ofChars? text.toList <;> simp [eq_comm]

/-- The label of a part with one parameter is the text of an expression. -/
theorem text_of_part {part : Part} {param : String} (h : part.params = [param]) :
    Expression.text ⟨part.definition.type, param⟩ = part.text := by
  rw [Part.text, h]
  rfl

/-- A text is read exactly if it is that of an expression, and then as this one; every other text is
refused. So the label of a part is read back as its type and its parameters, if the type is a name
and there is one parameter, which stands on one line and is not empty. -/
theorem ofText_exact :
    (∀ text e, ofText text = .ok e ↔ e.WellFormed ∧ e.text = text) ∧
    (∀ text error, ofText text = .error error ↔
      (∀ e : Expression, e.WellFormed → e.text ≠ text) ∧ error = .notAnExpression text) ∧
    ∀ (part : Part) (param : String), IsName part.definition.type → part.params = [param] →
      param ≠ "" → OneLine param →
      ∃ e, ofText part.text = .ok e ∧ e.name = part.definition.type ∧
        e.params = some part.params := by
  refine ⟨fun _ _ => ofText_eq_ok_iff, fun _ _ => ofText_eq_error_iff, ?_⟩
  intro part param hname hparams hne hline
  have hparam : params ⟨part.definition.type, param⟩ = some [param] := by simp [params, hne]
  refine ⟨⟨part.definition.type, param⟩, ofText_eq_ok_iff.2 ⟨⟨hname, hline⟩, ?_⟩, rfl, ?_⟩
  · exact text_of_part hparams
  · rw [hparam, hparams]

/-- The parentheses of an argument are its own. -/
theorem ofText_tag_parentheses :
    let part : Part := .bind (.function "tag" [{ name := "tag", type := .text }] [])
      (.clause "tag" (some ["a)(b(c)"]))
    IsName part.definition.type ∧ part.params = ["a)(b(c)"] ∧ OneLine "a)(b(c)" ∧
    part.text = "tag(a)(b(c))" ∧ ofText "tag(a)(b(c))" = .ok ⟨"tag", "a)(b(c)"⟩ ∧
    (∃ e, ofText part.text = .ok e ∧ e.name = "tag" ∧ e.params = some part.params) := by
  intro part
  have hname : IsName "tag" := by decide
  have hline : OneLine "a)(b(c)" := by decide
  obtain ⟨hread, -, hpart⟩ := ofText_exact
  refine ⟨hname, rfl, hline, rfl, ?_, ?_⟩
  · exact (hread _ _).2 ⟨⟨hname, hline⟩, rfl⟩
  · exact hpart part _ hname rfl (by decide) hline

end Expression

end GroupBy

end SeriesQuery
