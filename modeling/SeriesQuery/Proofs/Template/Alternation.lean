import Mathlib.Data.List.Basic
import SeriesQuery.Template.Variable

/-!
Values in the form of regular expressions, read as such expressions are. A backslash takes the
meaning from the character behind it, and a bar without one stands between alternatives. What is
read is what was inserted, except that no value at all cannot be told from the empty value.
-/

namespace SeriesQuery.Template

/-- A character of a pattern, with or without a backslash that escapes it. -/
structure PatternChar where
  escaped : Bool
  char : Char
deriving DecidableEq

namespace Pattern

/-- The characters of a pattern from left to right. An escaped one escapes nothing itself. -/
def read : List Char → List PatternChar
  | '\\' :: c :: cs => ⟨true, c⟩ :: read cs
  | c :: cs => ⟨false, c⟩ :: read cs
  | [] => []

def plain (chars : List PatternChar) : String :=
  .ofList (chars.map (·.char))

/-- A pattern without the backslashes that escape. -/
def unescaped (pattern : String) : String :=
  plain (read pattern.toList)

def bar : PatternChar := ⟨false, '|'⟩

/-- The alternatives of a pattern, without the backslashes that escape. -/
def alternatives (pattern : String) : List String :=
  ((read pattern.toList).splitOn bar).map plain

/-- No character has a meaning of its own but for the backslashes that escape. -/
def IsLiteral (pattern : String) : Prop :=
  ∀ c ∈ read pattern.toList, c.escaped = false → isMeta c.char = false

/-- The values of a selection, between bars. -/
def alternation (values : List String) : String :=
  String.intercalate "|" (values.map escapeMeta)

def escapedChars (value : String) : List PatternChar :=
  value.toList.map fun c => ⟨isMeta c, c⟩

variable {value : String} {values others : List String}

theorem read_cons_of_ne {c : Char} (hc : c ≠ '\\') (cs : List Char) :
    read (c :: cs) = ⟨false, c⟩ :: read cs := by
  rw [read]
  intro _ _ hback
  exact absurd hback hc

theorem read_escaped (c : Char) (rest : List Char) :
    read ((if isMeta c then ['\\', c] else [c]) ++ rest) = ⟨isMeta c, c⟩ :: read rest := by
  cases hc : isMeta c with
  | true => rfl
  | false =>
    refine read_cons_of_ne ?_ rest
    rintro rfl
    cases hc

/-- An escaped value ends where it was written to end, whatever stands behind it. -/
theorem read_escapeMeta_append (value : String) (rest : List Char) :
    read ((escapeMeta value).toList ++ rest) = escapedChars value ++ read rest := by
  rw [escapeMeta, String.toList_ofList, escapedChars]
  induction value.toList with
  | nil => rfl
  | cons c cs ih =>
    rw [List.flatMap_cons, List.append_assoc, read_escaped, ih, List.map_cons, List.cons_append]

theorem read_escapeMeta (value : String) :
    read (escapeMeta value).toList = escapedChars value := by
  have h := read_escapeMeta_append value []
  rwa [List.append_nil, read, List.append_nil] at h

theorem plain_escapedChars (value : String) : plain (escapedChars value) = value := by
  have hchars : (escapedChars value).map (·.char) = value.toList := by
    simp [escapedChars, Function.comp_def]
  rw [plain, hchars, String.ofList_toList]

theorem escaped_of_mem_escapedChars {c : PatternChar} (h : c ∈ escapedChars value) :
    c.escaped = isMeta c.char := by
  obtain ⟨_, _, rfl⟩ := List.mem_map.1 h
  rfl

theorem unescaped_escapeMeta (value : String) : unescaped (escapeMeta value) = value := by
  rw [unescaped, read_escapeMeta, plain_escapedChars]

theorem escapeMeta_inj {v w : String} : escapeMeta v = escapeMeta w ↔ v = w :=
  (Function.LeftInverse.injective unescaped_escapeMeta).eq_iff

theorem isLiteral_escapeMeta (value : String) : IsLiteral (escapeMeta value) := by
  intro c hc hescaped
  rw [read_escapeMeta] at hc
  rw [← escaped_of_mem_escapedChars hc, hescaped]

/-- A group begins with a bracket that is not escaped, which no escaped value has. -/
theorem escapeMeta_ne_group (value body : String) : escapeMeta value ≠ "(" ++ body ++ ")" := by
  intro h
  have hliteral := isLiteral_escapeMeta value
  have hgroup : ("(" ++ body ++ ")").toList = '(' :: (body.toList ++ [')']) := by simp
  rw [h, IsLiteral, hgroup, read_cons_of_ne (by decide)] at hliteral
  have hopen : isMeta '(' = false := hliteral _ List.mem_cons_self rfl
  exact absurd hopen (by decide)

theorem bar_notMem_escapedChars (value : String) : bar ∉ escapedChars value := by
  intro h
  have hbar : false = isMeta '|' := escaped_of_mem_escapedChars h
  exact absurd hbar (by decide)

theorem read_alternation (values : List String) :
    read (alternation values).toList = [bar].intercalate (values.map escapedChars) := by
  rw [alternation]
  induction values with
  | nil => rfl
  | cons value rest ih =>
    cases rest with
    | nil => simpa using read_escapeMeta value
    | cons next rest =>
      simp only [List.map_cons] at ih ⊢
      rw [String.intercalate_cons_cons, List.intercalate_cons_cons, ← ih, String.toList_append,
        String.toList_append, List.append_assoc, read_escapeMeta_append, List.append_assoc]
      rfl

/-- An alternation is read back as the values that it was made of. -/
theorem alternatives_alternation (h : values ≠ []) :
    alternatives (alternation values) = values := by
  have hbar : ∀ chars ∈ values.map escapedChars, bar ∉ chars := by
    intro chars hchars
    obtain ⟨value, _, rfl⟩ := List.mem_map.1 hchars
    exact bar_notMem_escapedChars value
  have hne : values.map escapedChars ≠ [] := by simpa using h
  rw [alternatives, read_alternation, List.splitOn_intercalate _ hbar hne, List.map_map]
  exact List.map_id'' plain_escapedChars values

example : alternatives "a\\|b||\\\\" = ["a|b", "", "\\"] := by decide +kernel

/-- An alternation has one alternative at least, so no value is the same as the empty one. -/
theorem alternation_inj :
    alternation values = alternation others ↔
      values = others ∨ (values = [] ∨ values = [""]) ∧ (others = [] ∨ others = [""]) := by
  constructor
  · intro h
    have hread := congrArg alternatives h
    by_cases hvalues : values = []
    · by_cases hothers : others = []
      · exact .inl (hvalues.trans hothers.symm)
      · rw [alternatives_alternation hothers, hvalues] at hread
        exact .inr ⟨.inl hvalues, .inr hread.symm⟩
    · by_cases hothers : others = []
      · rw [alternatives_alternation hvalues, hothers] at hread
        exact .inr ⟨.inr hread, .inl hothers⟩
      · rw [alternatives_alternation hvalues, alternatives_alternation hothers] at hread
        exact .inl hread
  · rintro (rfl | ⟨rfl | rfl, rfl | rfl⟩) <;> rfl

end Pattern

namespace Value

open Pattern

/-- There is no value, or only the empty one. -/
def SelectsNothing (value : Value) : Prop :=
  value = .multi [] ∨ value = .multi [""]

theorem format_regex_multi (values : List String) :
    (multi values).format (some "regex") = "(" ++ alternation values ++ ")" := rfl

theorem format_regex_single (value : String) :
    (single value).format (some "regex") = escapeMeta value := rfl

/-- Only selections of nothing become the same pattern. -/
theorem format_regex_inj {a b : Value} :
    a.format (some "regex") = b.format (some "regex") ↔
      a = b ∨ a.SelectsNothing ∧ b.SelectsNothing := by
  cases a with
  | single v =>
    cases b with
    | single w =>
      rw [format_regex_single, format_regex_single, escapeMeta_inj]
      simp [SelectsNothing]
    | multi ws =>
      rw [format_regex_single, format_regex_multi]
      simp [escapeMeta_ne_group, SelectsNothing]
  | multi vs =>
    cases b with
    | single w =>
      rw [format_regex_single, format_regex_multi]
      simp [(escapeMeta_ne_group _ _).symm, SelectsNothing]
    | multi ws =>
      rw [format_regex_multi, format_regex_multi, String.append_left_inj, String.append_right_inj,
        alternation_inj]
      simp [SelectsNothing]

end Value

end SeriesQuery.Template
