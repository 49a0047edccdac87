import Mathlib.Data.List.Basic
import SeriesQuery.Proofs.Template.Scanning

/-!
Substitution as one pass from left to right. Where a placeholder begins it is taken as a whole, any
other character is passed on, and what is inserted is not looked at again. Which placeholders there
are depends on the text alone.
-/

namespace SeriesQuery.Template

open Text

/-- A run of word characters, at least one. -/
def IsName (cs : List Char) : Prop :=
  cs ≠ [] ∧ ∀ c ∈ cs, isWord c = true

def formatSource : Option (List Char) → List Char
  | none => []
  | some format => ':' :: format

/-- A placeholder in front of some text. Without brackets its name goes as far as word characters
do. -/
inductive Opens : Placeholder → List Char → Prop
  | bare {name rest : List Char} (hname : IsName name)
      (hlongest : ∀ c ∈ rest.head?, isWord c = false) : Opens ⟨name, none, '$' :: name⟩ rest
  | square {name rest : List Char} {format : Option (List Char)} (hname : IsName name)
      (hformat : ∀ f ∈ format, IsName f) :
      Opens ⟨name, format, ['[', '['] ++ name ++ formatSource format ++ [']', ']']⟩ rest
  | curly {name rest : List Char} {format : Option (List Char)} (hname : IsName name)
      (hformat : ∀ f ∈ format, IsName f) :
      Opens ⟨name, format, ['$', '{'] ++ name ++ formatSource format ++ ['}']⟩ rest

/-- The segments of a text from left to right. A placeholder is taken at the first place where one
begins, and the pass goes on behind it. -/
inductive Scan : List Char → List Segment → Prop
  | nil : Scan [] []
  | placeholder {p : Placeholder} {rest : List Char} {segs : List Segment} (hopens : Opens p rest)
      (hrest : Scan rest segs) : Scan (p.source ++ rest) (.placeholder p :: segs)
  | char {c : Char} {rest : List Char} {segs : List Segment}
      (hnone : ∀ p after, Opens p after → c :: rest ≠ p.source ++ after)
      (hrest : Scan rest segs) : Scan (c :: rest) (.char c :: segs)

variable {cs name rest opening closing : List Char} {p : Placeholder} {segs : List Segment}

theorem isName_takeWhile (h : ¬ (cs.takeWhile isWord).isEmpty = true) :
    IsName (cs.takeWhile isWord) :=
  ⟨by simpa using h, List.all_eq_true.1 List.all_takeWhile⟩

theorem IsName.split (h : IsName name) (hrest : ∀ c ∈ rest.head?, isWord c = false) :
    (name ++ rest).takeWhile isWord = name ∧ (name ++ rest).dropWhile isWord = rest := by
  rw [List.takeWhile_append_of_pos h.2, List.dropWhile_append_of_pos h.2]
  cases rest with
  | nil => simp
  | cons c rest => simp [hrest c rfl]

theorem IsName.head_ne (h : IsName name) {c : Char} (hc : isWord c = false)
    (rest after : List Char) : name ++ rest ≠ c :: after := by
  obtain ⟨hne, hword⟩ := h
  cases name with
  | nil => exact absurd rfl hne
  | cons first name =>
    intro heq
    have hfirst := hword first List.mem_cons_self
    rw [(List.cons.inj heq).1, hc] at hfirst
    cases hfirst

theorem enclosed?_eq_some_iff {stop : Char} (hstop : isWord stop = false) (hcolon : stop ≠ ':') :
    Placeholder.enclosed? opening (stop :: closing) cs = some p ↔
      ∃ name format rest, IsName name ∧ (∀ f ∈ format, IsName f) ∧
        cs = name ++ formatSource format ++ stop :: closing ++ rest ∧
        p = ⟨name, format, opening ++ name ++ formatSource format ++ stop :: closing⟩ := by
  have hwhole := List.takeWhile_append_dropWhile (p := isWord) (l := cs)
  constructor
  · intro h
    by_cases hformat : ∃ after, cs.dropWhile isWord = ':' :: after
    · obtain ⟨after, hafter⟩ := hformat
      rw [Placeholder.enclosed?_of_format hafter, Option.ite_none_left_eq_some,
        Option.ite_none_right_eq_some] at h
      obtain ⟨hname, hclosed, hp⟩ := h
      obtain ⟨hformat, hprefix⟩ := Bool.and_eq_true_iff.1 hclosed
      obtain ⟨rest, hrest⟩ := List.isPrefixOf_iff_prefix.1 hprefix
      have hafterWhole := List.takeWhile_append_dropWhile (p := isWord) (l := after)
      refine ⟨_, some (after.takeWhile isWord), rest, isName_takeWhile hname, ?_, ?_,
        (Option.some.inj hp).symm⟩
      · rintro f ⟨⟩
        exact isName_takeWhile (by simpa using hformat)
      · calc
          cs = cs.takeWhile isWord ++
              ':' :: (after.takeWhile isWord ++ (stop :: closing ++ rest)) := by
            rw [hrest, hafterWhole, ← hafter, hwhole]
          _ = _ := by simp [formatSource]
    · rw [Placeholder.enclosed?_of_no_format fun after h => hformat ⟨after, h⟩,
        Option.ite_none_left_eq_some, Option.ite_none_right_eq_some] at h
      obtain ⟨hname, hprefix, hp⟩ := h
      obtain ⟨rest, hrest⟩ := List.isPrefixOf_iff_prefix.1 hprefix
      refine ⟨_, none, rest, isName_takeWhile hname, by simp, ?_, ?_⟩
      · calc
          cs = cs.takeWhile isWord ++ (stop :: closing ++ rest) := by rw [hrest, hwhole]
          _ = _ := by simp [formatSource]
      · rw [← Option.some.inj hp, formatSource, List.append_nil]
  · rintro ⟨name, format, rest, hname, hformat, rfl, rfl⟩
    have hstops : ∀ c ∈ (stop :: (closing ++ rest)).head?, isWord c = false := by
      rintro c ⟨⟩
      exact hstop
    have hne : ¬ name.isEmpty = true := by simpa using hname.1
    cases format with
    | none =>
      have hsplit := hname.split hstops
      have hcs : name ++ formatSource none ++ stop :: closing ++ rest =
          name ++ stop :: (closing ++ rest) := by
        simp [formatSource]
      rw [hcs, Placeholder.enclosed?_of_no_format, hsplit.1, hsplit.2, if_neg hne, if_pos]
      · simp [formatSource]
      · simp
      · intro after hafter
        rw [hsplit.2] at hafter
        exact hcolon (List.cons.inj hafter).1
    | some format =>
      have hafter := (hformat format rfl).split hstops
      have hcolonStops : ∀ c ∈ (':' :: (format ++ stop :: (closing ++ rest))).head?,
          isWord c = false := by
        rintro c ⟨⟩
        exact not_isWord_colon
      have hsplit := hname.split hcolonStops
      have hcs : name ++ formatSource (some format) ++ stop :: closing ++ rest =
          name ++ ':' :: (format ++ stop :: (closing ++ rest)) := by
        simp [formatSource]
      rw [hcs, Placeholder.enclosed?_of_format hsplit.2, hsplit.1, hafter.1, hafter.2, if_neg hne,
        if_pos]
      · simp [formatSource]
      · simpa using (hformat format rfl).1

/-- A placeholder is found at the front of a text exactly if one begins there. -/
theorem atFront?_eq_some_iff :
    Placeholder.atFront? cs = some p ↔ ∃ rest, cs = p.source ++ rest ∧ Opens p rest := by
  constructor
  · intro h
    unfold Placeholder.atFront? at h
    split at h
    · obtain ⟨name, format, rest, hname, hformat, rfl, rfl⟩ :=
        (enclosed?_eq_some_iff (by decide) (by decide)).1 h
      exact ⟨rest, by simp, .curly hname hformat⟩
    · next after _ =>
      obtain ⟨hname, hp⟩ := Option.ite_none_left_eq_some.1 h
      cases hp
      refine ⟨after.dropWhile isWord, ?_, .bare (isName_takeWhile hname) ?_⟩
      · rw [List.cons_append, List.takeWhile_append_dropWhile]
      · intro c hc
        have hnot := List.head?_dropWhile_not isWord after
        rwa [Option.mem_def.1 hc] at hnot
    · obtain ⟨name, format, rest, hname, hformat, rfl, rfl⟩ :=
        (enclosed?_eq_some_iff (by decide) (by decide)).1 h
      exact ⟨rest, by simp, .square hname hformat⟩
    · cases h
  · rintro ⟨rest, rfl, hopens⟩
    cases hopens with
    | @bare name _ hname hlongest =>
      have hsplit := hname.split hlongest
      have hne : ¬ name.isEmpty = true := by simpa using hname.1
      rw [List.cons_append, Placeholder.atFront?_dollar (hname.head_ne (by decide) rest), hsplit.1,
        if_neg hne]
    | @square name _ format hname hformat =>
      have hcs : ['[', '['] ++ name ++ formatSource format ++ [']', ']'] ++ rest =
          '[' :: '[' :: (name ++ formatSource format ++ [']', ']'] ++ rest) := by
        simp
      rw [hcs]
      exact (enclosed?_eq_some_iff (by decide) (by decide)).2
        ⟨name, format, rest, hname, hformat, rfl, rfl⟩
    | @curly name _ format hname hformat =>
      have hcs : ['$', '{'] ++ name ++ formatSource format ++ ['}'] ++ rest =
          '$' :: '{' :: (name ++ formatSource format ++ ['}'] ++ rest) := by
        simp
      rw [hcs]
      exact (enclosed?_eq_some_iff (by decide) (by decide)).2
        ⟨name, format, rest, hname, hformat, rfl, rfl⟩

theorem atFront?_eq_none_iff :
    Placeholder.atFront? cs = none ↔ ∀ p after, Opens p after → cs ≠ p.source ++ after := by
  simp only [Option.eq_none_iff_forall_ne_some, ne_eq, atFront?_eq_some_iff, not_exists, not_and']

/-- Every text is passed over in exactly one way. -/
theorem scan_iff : Scan cs segs ↔ segs = segments cs := by
  constructor
  · intro h
    induction h with
    | nil => rfl
    | @placeholder p rest segs hopens _ ih =>
      rw [segments_of_placeholder (atFront?_eq_some_iff.2 ⟨rest, rfl, hopens⟩), ih]
    | char hnone _ ih => rw [segments_of_char (atFront?_eq_none_iff.2 hnone), ih]
  · rintro rfl
    induction cs using scan_induction with
    | hnil => exact .nil
    | hplaceholder p after hp ih =>
      rw [segments_of_placeholder hp]
      obtain ⟨rest, hrest, hopens⟩ := atFront?_eq_some_iff.1 hp
      cases List.append_cancel_left hrest
      exact .placeholder hopens ih
    | hchar c cs hc ih =>
      rw [segments_of_char hc]
      exact .char (atFront?_eq_none_iff.1 hc) ih

def Segment.source : Segment → List Char
  | .char c => [c]
  | .placeholder p => p.source

theorem Scan.flatMap_source (h : Scan cs segs) : segs.flatMap Segment.source = cs := by
  induction h with
  | nil => rfl
  | placeholder _ _ ih => rw [List.flatMap_cons, ih]; rfl
  | char _ _ ih => rw [List.flatMap_cons, ih]; rfl

/-- What a segment becomes where variables are inserted: a placeholder of a known name the inserted
text, and any other segment what it is. -/
def Segment.output (known : String → Option Variable) (insert : Placeholder → Variable → String) :
    Segment → List Char
  | .char c => [c]
  | .placeholder p =>
    match known (.ofList p.name) with
    | some v => (insert p v).toList
    | none => p.source

/-- The variable of a name; one of the panel goes before one of the dashboard. -/
def knownVariable (panel vars : Variables) (name : String) : Option Variable :=
  match panel.get? name with
  | some v => some v
  | none => vars.get? name

variable {panel vars : Variables}

theorem resolve?_eq_knownVariable (name : String) :
    resolve? panel vars name = knownVariable panel vars name := by
  unfold resolve? knownVariable
  cases panel.get? name <;> rfl

theorem toList_substituteWith (insert : Placeholder → Variable → String) {text : String}
    (h : Scan text.toList segs) :
    (substituteWith panel vars insert text).toList =
      segs.flatMap (Segment.output (knownVariable panel vars) insert) := by
  rw [scan_iff.1 h]
  simp only [substituteWith, substitute, String.toList_ofList]
  refine List.flatMap_congr fun seg _ => ?_
  cases seg with
  | char c => rfl
  | placeholder p =>
    simp only [Segment.output, resolve?_eq_knownVariable]
    cases knownVariable panel vars (.ofList p.name) <;> rfl

theorem substituteWith_eq_self (insert : Placeholder → Variable → String) {text : String}
    (h : Scan text.toList segs)
    (hunknown : ∀ p, .placeholder p ∈ segs → knownVariable panel vars (.ofList p.name) = none) :
    substituteWith panel vars insert text = text := by
  have houtput : segs.flatMap (Segment.output (knownVariable panel vars) insert) =
      segs.flatMap Segment.source := by
    refine List.flatMap_congr fun seg hseg => ?_
    cases seg with
    | char c => rfl
    | placeholder p => simp only [Segment.output, hunknown p hseg, Segment.source]
  rw [← String.toList_inj, toList_substituteWith insert h, houtput, h.flatMap_source]

namespace Context

/-- The replacement of variables is one pass over the text, which finds the same placeholders
whatever the variables are. A placeholder of a known name becomes the value in its own format, or in
that of the call if it has none, and everything else stays as it is written; in the same way for the
texts that are shown. So a text without known names is left alone, and a change of one variable
shows only where its name stands. -/
theorem replace_single_pass (panel vars : Variables) (format : Option String) (text : String) :
    let context : Context := ⟨.dashboard vars, panel⟩
    let known := knownVariable panel vars
    let formatted (p : Placeholder) (v : Variable) :=
      v.value.format ((p.format.map String.ofList).or format)
    ∃ segs, (∀ others, Scan text.toList others ↔ others = segs) ∧
      segs.flatMap Segment.source = text.toList ∧
      (context.replace format text).toList = segs.flatMap (Segment.output known formatted) ∧
      (context.replaceWithText text).toList =
        segs.flatMap (Segment.output known fun _ v => v.text) ∧
      ((∀ p, .placeholder p ∈ segs → known (.ofList p.name) = none) →
        context.replace format text = text ∧ context.replaceWithText text = text) ∧
      ∀ (name : String) (panel' vars' : Variables),
        (∀ other, other ≠ name → knownVariable panel' vars' other = known other) →
        let changed : Context := ⟨.dashboard vars', panel'⟩
        let known' := knownVariable panel' vars'
        (changed.replace format text).toList = segs.flatMap (Segment.output known' formatted) ∧
        (changed.replaceWithText text).toList =
          segs.flatMap (Segment.output known' fun _ v => v.text) ∧
        ∀ seg ∈ segs, (∀ p, seg = .placeholder p → String.ofList p.name ≠ name) →
          ∀ insert, seg.output known' insert = seg.output known insert := by
  intro context known formatted
  have hscan : Scan text.toList (segments text.toList) := scan_iff.2 rfl
  refine ⟨segments text.toList, fun others => scan_iff, hscan.flatMap_source,
    toList_substituteWith _ hscan, toList_substituteWith _ hscan, fun hunknown => ?_,
    fun name panel' vars' hothers => ?_⟩
  · exact ⟨substituteWith_eq_self _ hscan hunknown, substituteWith_eq_self _ hscan hunknown⟩
  · refine ⟨toList_substituteWith _ hscan, toList_substituteWith _ hscan, ?_⟩
    intro seg _ hname insert
    cases seg with
    | char c => rfl
    | placeholder p => simp only [Segment.output, hothers _ (hname p rfl)]

example : segments "[[[a]]$$b[[b:c]][[a:]]".toList =
    [.char '[', .placeholder ⟨['a'], none, "[[a]]".toList⟩, .char '$',
      .placeholder ⟨['b'], none, "$b".toList⟩,
      .placeholder ⟨['b'], some ['c'], "[[b:c]]".toList⟩, .char '[', .char '[', .char 'a',
      .char ':', .char ']', .char ']'] := by
  decide +kernel

end Context

end SeriesQuery.Template
