import Mathlib.Data.List.Basic
import SeriesQuery.Proofs.Json.Printed
import SeriesQuery.Proofs.Template.Scanning

/-!
Substitution in printed values. Every placeholder of a printed value lies within one of its strings,
so that a substitution changes the bodies of the strings and nothing else.
-/

namespace SeriesQuery

namespace Template

open Json

def Segment.inserted (insert : Placeholder → List Char) : Segment → List Char
  | .char c => [c]
  | .placeholder p => insert p

/-- The characters that stand for a segment of a printed string. -/
def Segment.body (insert : Placeholder → List Char) : Segment → List Char
  | .char c => escaped c
  | .placeholder p => insert p

/-- A text with all its placeholders replaced. -/
def insertAll (insert : Placeholder → List Char) (cs : List Char) : List Char :=
  (segments cs).flatMap (Segment.inserted insert)

/-- The body of a string with all its placeholders replaced. -/
def bodyWith (insert : Placeholder → List Char) (text : String) : List Char :=
  (segments text.toList).flatMap (Segment.body insert)

variable {insert : Placeholder → List Char}

theorem insertAll_append {cs : List Char} (h : OpensNothing cs) (rest : List Char) :
    insertAll insert (cs ++ rest) = cs ++ insertAll insert rest := by
  rw [insertAll, segments_append h, List.flatMap_append, List.flatMap_map]
  simp [insertAll, Segment.inserted]

theorem insertAll_eq_self {cs : List Char} (h : OpensNothing cs) :
    insertAll insert cs = cs := by
  have hsame : insertAll insert (cs ++ []) = cs ++ insertAll insert [] := insertAll_append h []
  have hnil : insertAll insert [] = [] := rfl
  rwa [hnil, List.append_nil] at hsame

theorem insertAll_cons {c : Char} (h : c ≠ '$' ∧ c ≠ '[') (rest : List Char) :
    insertAll insert (c :: rest) = c :: insertAll insert rest :=
  insertAll_append (by simpa [OpensNothing] using h : OpensNothing [c]) rest

theorem insertAll_bracket {rest : List Char} (h : ∀ after, rest ≠ '[' :: after) :
    insertAll insert ('[' :: rest) = '[' :: insertAll insert rest := by
  have hfront : Placeholder.atFront? ('[' :: rest) = none := by
    refine Placeholder.atFront?_none (fun after heq => ?_) fun after heq => ?_
    · cases heq
    · exact h after (List.cons.inj heq).2
  rw [insertAll, segments_of_char hfront]
  rfl

theorem insertAll_string (text : String) (rest : List Char) :
    insertAll insert (text.toList.flatMap escaped ++ '"' :: rest) =
      bodyWith insert text ++ '"' :: insertAll insert rest := by
  have hbody : ∀ segment : Segment,
      segment.printed.flatMap (Segment.inserted insert) = segment.body insert := by
    intro segment
    cases segment with
    | char c => simp [Segment.printed, Segment.body, Segment.inserted, List.flatMap_map]
    | placeholder p => simp [Segment.printed, Segment.body, Segment.inserted]
  rw [insertAll, segments_printed, List.flatMap_append, List.flatMap_assoc]
  simp only [hbody]
  rfl

end Template

namespace Json

theorem Number.opensNothing_chars (n : Number) : Template.OpensNothing n.chars := by
  obtain ⟨hliteral, hchars⟩ := n.literal_spec
  intro c hc
  rw [hchars] at hc
  constructor
  · rintro rfl
    exact absurd (hliteral.isNumberChar hc) (by decide)
  · rintro rfl
    exact absurd (hliteral.isNumberChar hc) (by decide)

/-- No array of a value begins with another one, so that no two opening brackets stand side by side
in its text. -/
inductive Spaced : Json → Prop
  | null : Spaced .null
  | bool (value : Bool) : Spaced (.bool value)
  | number (n : Number) : Spaced (.number n)
  | string (text : String) : Spaced (.string text)
  | array {items : List Json} (hhead : ∀ inner, items.head? ≠ some (.array inner))
    (h : ∀ item ∈ items, Spaced item) : Spaced (.array items)
  | object {fields : List (String × Json)} (h : ∀ field ∈ fields, Spaced field.2) :
    Spaced (.object fields)

/-- All numbers of a value are integers, and none of its arrays begins with another one. -/
inductive Scannable : Json → Prop
  | null : Scannable .null
  | bool (value : Bool) : Scannable (.bool value)
  | integer (value : Int) (fits : -0x8000000000000000 ≤ value ∧ value < 0x10000000000000000) :
    Scannable (.integer value fits)
  | string (text : String) : Scannable (.string text)
  | array {items : List Json} (hhead : ∀ inner, items.head? ≠ some (.array inner))
    (h : ∀ item ∈ items, Scannable item) : Scannable (.array items)
  | object {fields : List (String × Json)} (h : ∀ field ∈ fields, Scannable field.2) :
    Scannable (.object fields)

theorem Scannable.integral {v : Json} (h : v.Scannable) : v.Integral := by
  induction h with
  | null => exact .null
  | bool value => exact .bool value
  | integer value fits => exact .integer value fits
  | string text => exact .string text
  | array _ _ ih => exact .array ih
  | object _ ih => exact .object ih

theorem Scannable.spaced {v : Json} (h : v.Scannable) : v.Spaced := by
  induction h with
  | null => exact .null
  | bool value => exact .bool value
  | integer value fits => exact .number _
  | string text => exact .string text
  | array hhead _ ih => exact .array hhead ih
  | object _ ih => exact .object ih

open Template

variable {insert : Placeholder → List Char}

theorem exists_chars_eq_cons {v : Json} (hv : ∀ inner, v ≠ .array inner) :
    ∃ c rest, v.chars = c :: rest ∧ c ≠ '[' := by
  cases v with
  | null => exact ⟨_, _, rfl, by decide⟩
  | bool value => cases value <;> exact ⟨_, _, rfl, by decide⟩
  | number n =>
    obtain ⟨c, rest, hchars, hc⟩ := n.exists_chars_eq_cons
    exact ⟨c, rest, hchars, ne_of_number hc (by decide) rfl⟩
  | string text => exact ⟨_, _, rfl, by decide⟩
  | array => exact absurd rfl (hv _)
  | object => exact ⟨_, _, rfl, by decide⟩

theorem exists_itemChars_eq_append (item : Json) (items : List Json) :
    ∃ tail, itemChars (item :: items) = item.chars ++ tail := by
  cases items with
  | nil => exact ⟨[], by rw [itemChars, List.append_nil]⟩
  | cons next items => exact ⟨_, rfl⟩

theorem insertAll_itemChars {items : List Json}
    (h : ∀ item ∈ items, ∀ rest, insertAll insert (item.chars ++ rest) =
      charsWith (bodyWith insert) item ++ insertAll insert rest) (rest : List Char) :
    insertAll insert (itemChars items ++ rest) =
      itemCharsWith (bodyWith insert) items ++ insertAll insert rest := by
  induction items with
  | nil => rfl
  | cons item items ih =>
    obtain ⟨hitem, hitems⟩ := List.forall_mem_cons.1 h
    cases items with
    | nil => exact hitem rest
    | cons next items =>
      have hrest := ih hitems
      simp only [itemChars, itemCharsWith, List.append_assoc, List.cons_append]
      rw [hitem, insertAll_cons (by decide), hrest]

theorem insertAll_fieldChars {fields : List (String × Json)}
    (h : ∀ field ∈ fields, ∀ rest, insertAll insert (field.2.chars ++ rest) =
      charsWith (bodyWith insert) field.2 ++ insertAll insert rest) (rest : List Char) :
    insertAll insert (fieldChars fields ++ rest) =
      fieldCharsWith (bodyWith insert) fields ++ insertAll insert rest := by
  induction fields with
  | nil => rfl
  | cons field fields ih =>
    obtain ⟨name, value⟩ := field
    obtain ⟨hvalue, hvalues⟩ := List.forall_mem_cons.1 h
    cases fields with
    | nil =>
      simp only [fieldChars, fieldCharsWith, stringChars, List.append_assoc, List.cons_append,
        List.nil_append]
      rw [insertAll_cons (by decide), insertAll_string, insertAll_cons (by decide), hvalue]
    | cons next fields =>
      have hrest := ih hvalues
      simp only [fieldChars, fieldCharsWith, stringChars, List.append_assoc, List.cons_append,
        List.nil_append]
      rw [insertAll_cons (by decide), insertAll_string, insertAll_cons (by decide), hvalue,
        insertAll_cons (by decide), hrest]

/-- A substitution in a printed value changes the bodies of its strings and nothing else. -/
theorem Spaced.insertAll_chars {v : Json} (h : v.Spaced) (rest : List Char) :
    insertAll insert (v.chars ++ rest) =
      charsWith (bodyWith insert) v ++ insertAll insert rest := by
  induction h generalizing rest with
  | null => exact insertAll_append (by decide : OpensNothing ['n', 'u', 'l', 'l']) rest
  | bool value =>
    cases value with
    | false => exact insertAll_append (by decide : OpensNothing ['f', 'a', 'l', 's', 'e']) rest
    | true => exact insertAll_append (by decide : OpensNothing ['t', 'r', 'u', 'e']) rest
  | number n => exact insertAll_append n.opensNothing_chars rest
  | string text =>
    simp only [chars, charsWith, stringChars, List.append_assoc, List.cons_append, List.nil_append]
    rw [insertAll_cons (by decide), insertAll_string]
  | @array items hhead h ih =>
    have hitems := insertAll_itemChars ih (']' :: rest)
    simp only [chars, charsWith, List.append_assoc, List.cons_append, List.nil_append]
    rw [insertAll_bracket, hitems, insertAll_cons (by decide)]
    intro after hafter
    cases items with
    | nil => cases hafter
    | cons item items =>
      obtain ⟨tail, htail⟩ := exists_itemChars_eq_append item items
      obtain ⟨c, cs, hchars, hc⟩ := exists_chars_eq_cons fun inner hinner =>
        hhead inner (congrArg some hinner)
      rw [htail, hchars] at hafter
      exact hc (List.cons.inj hafter).1
  | @object fields h ih =>
    simp only [chars, charsWith, List.append_assoc, List.cons_append, List.nil_append]
    rw [insertAll_cons (by decide), insertAll_fieldChars ih, insertAll_cons (by decide)]

end Json

namespace Template

open Json

variable {insert means : Placeholder → List Char} {context : Context}

/-- If what replaces the placeholders of a string stands for some texts, the body of the string
stands for the string with these texts. -/
theorem stringBody_bodyWith {text : String}
    (h : ∀ p, .placeholder p ∈ segments text.toList → StringBody (insert p) (means p)) :
    StringBody (bodyWith insert text) (insertAll means text.toList) := by
  unfold bodyWith insertAll
  generalize segments text.toList = segments at h ⊢
  induction segments with
  | nil => exact .nil
  | cons segment rest ih =>
    have hrest := ih fun p hp => h p (List.mem_cons_of_mem _ hp)
    cases segment with
    | char c => exact (stringBody_escaped c).append hrest
    | placeholder p => exact (h p List.mem_cons_self).append hrest

/-- A change of texts leaves those alone in which no placeholder can begin. -/
def FixesWords (g : String → String) : Prop :=
  ∀ text, OpensNothing text.toList → g text = text

namespace Context

/-- The service is one of the two that come with the library, and not made of functions of one's
own, of which nothing is known. -/
def IsShipped (context : Context) : Prop :=
  match context.service with
  | .custom _ _ => False
  | _ => True

instance : DecidablePred IsShipped
  | ⟨.inert, _⟩ => .isTrue trivial
  | ⟨.dashboard _, _⟩ => .isTrue trivial
  | ⟨.custom _ _, _⟩ => .isFalse id

/-- The text with which a service of the library replaces a placeholder, if its name is known. -/
def insertion? (context : Context) (format : Option String) (p : Placeholder) : Option String :=
  match context.service with
  | .dashboard vars =>
    (resolve? context.panel vars (.ofList p.name)).map fun v =>
      v.value.format ((p.format.map String.ofList).or format)
  | _ => none

/-- What stands for a placeholder after the replacement. -/
def inserted (context : Context) (format : Option String) (p : Placeholder) : List Char :=
  ((context.insertion? format p).map String.toList).getD p.source

end Context

theorem insertAll_source (cs : List Char) : insertAll Placeholder.source cs = cs := by
  unfold insertAll
  induction cs using scan_induction with
  | hnil => rfl
  | hplaceholder p after hp ih =>
    rw [segments_of_placeholder hp, List.flatMap_cons, ih]
    rfl
  | hchar c cs hc ih =>
    rw [segments_of_char hc, List.flatMap_cons, ih]
    rfl

/-- A text in which no placeholder stands. -/
def IsLiteral (text : String) : Prop :=
  ∀ p, .placeholder p ∉ segments text.toList

theorem isLiteral_of_opensNothing {text : String} (h : OpensNothing text.toList) :
    IsLiteral text := by
  have hsegments := segments_append h []
  rw [List.append_nil] at hsegments
  intro p hp
  rw [hsegments] at hp
  simp [segments, segmentsAfter] at hp

/-- A value that no change of texts touches has no string in which a placeholder can begin. -/
theorem opensNothing_of_fixed {v : Json} (h : ∀ g, FixesWords g → v.mapText g = v) :
    ∀ text ∈ v.texts, OpensNothing text.toList := by
  intro text htext
  let erase (other : String) : String := if OpensNothing other.toList then other else ""
  have herase : v.mapText erase = v := h erase fun _ hother => if_pos hother
  by_contra hopens
  have hsame : erase text = text := (mapText_eq_self_iff v).1 herase text htext
  have hempty : text = "" := hsame.symm.trans (if_neg hopens)
  exact hopens (by rw [hempty]; decide)

theorem insertAll_of_isLiteral {text : String} (h : IsLiteral text) :
    insertAll insert text.toList = text.toList := by
  have hsame : insertAll insert text.toList = insertAll Placeholder.source text.toList := by
    refine List.flatMap_congr fun segment hsegment => ?_
    cases segment with
    | char c => rfl
    | placeholder p => exact absurd hsegment (h p)
  rw [hsame, insertAll_source]

namespace Context

theorem toList_replace (h : context.IsShipped) (format : Option String) (text : String) :
    (context.replace format text).toList = insertAll (context.inserted format) text.toList := by
  obtain ⟨service, panel⟩ := context
  cases service with
  | inert => exact (insertAll_source text.toList).symm
  | dashboard vars =>
    simp only [replace, substituteWith, substitute, insertAll, String.toList_ofList]
    congr 1
    funext segment
    cases segment with
    | char c => rfl
    | placeholder p =>
      simp only [Segment.inserted, inserted, insertion?]
      cases resolve? panel vars (.ofList p.name) <;> rfl
  | custom _ _ => exact False.elim h

theorem IsShipped.replace_fixesWords (h : context.IsShipped) (format : Option String) :
    FixesWords (context.replace format) := by
  intro text hopens
  apply String.toList_injective
  rw [toList_replace h, insertAll_eq_self hopens]

/-- A substitution in a printed value prints the value with other bodies of its strings. -/
theorem toList_replace_text (hshipped : context.IsShipped) (format : Option String) {v : Json}
    (h : v.Spaced) : (context.replace format v.text).toList =
      charsWith (bodyWith (context.inserted format)) v := by
  have hscan : insertAll (context.inserted format) (v.chars ++ []) = _ := h.insertAll_chars []
  have hnil : insertAll (context.inserted format) [] = [] := rfl
  rw [List.append_nil, hnil, List.append_nil] at hscan
  rw [toList_replace hshipped, Json.text, String.toList_ofList, hscan]

/-- A printed value is read as the value with other texts, if the bodies that the substitution makes
stand for these texts. -/
theorem run_replace {α : Type} {v : Json} {g : String → String} (hshipped : context.IsShipped)
    (h : v.Spaced) (hbody : ∀ text ∈ v.texts,
      StringBody (bodyWith (context.inserted none) text) (g text).toList)
    (reader : Reader α) :
    reader.run (context.replace none v.text) =
      reader Reader.levelLimit (.ofJson (v.mapText g)) := by
  refine Reader.run_of_ofChars ?_ reader
  rw [toList_replace_text hshipped none h]
  exact ofChars_charsWith hbody

theorem inserted_of_some {format : Option String} {p : Placeholder} {text : String}
    (h : context.insertion? format p = some text) : context.inserted format p = text.toList := by
  rw [inserted, h]
  rfl

theorem inserted_of_none {format : Option String} {p : Placeholder}
    (h : context.insertion? format p = none) : context.inserted format p = p.source := by
  rw [inserted, h]
  rfl

/-- If the segment is a placeholder of a known name, what replaces it needs no escape. -/
def InsertsPlainAt (context : Context) : Segment → Prop
  | .char _ => True
  | .placeholder p => ∀ inserted ∈ context.insertion? none p, ArePlain inserted.toList

instance (context : Context) : DecidablePred context.InsertsPlainAt
  | .char _ => inferInstanceAs (Decidable True)
  | .placeholder p =>
    inferInstanceAs (Decidable (∀ inserted ∈ context.insertion? none p, ArePlain inserted.toList))

/-- A service of the library replaces the placeholders of known names in the strings of a value by
text that needs no escape. -/
structure InsertsPlain (context : Context) (v : Json) : Prop where
  shipped : context.IsShipped
  plain : ∀ text ∈ v.texts, ∀ segment ∈ segments text.toList, context.InsertsPlainAt segment

instance (context : Context) : DecidablePred context.InsertsPlain := fun v =>
  decidable_of_iff (context.IsShipped ∧
      ∀ text ∈ v.texts, ∀ segment ∈ segments text.toList, context.InsertsPlainAt segment)
    ⟨fun h => ⟨h.1, h.2⟩, fun h => ⟨h.shipped, h.plain⟩⟩

/-- Nothing is inserted into a value that no change of texts touches. -/
theorem IsShipped.insertsPlain_of_fixed (hshipped : context.IsShipped) {v : Json}
    (h : ∀ g, FixesWords g → v.mapText g = v) : context.InsertsPlain v := by
  refine ⟨hshipped, fun text htext segment hsegment => ?_⟩
  cases segment with
  | char c => trivial
  | placeholder p =>
    exact absurd hsegment (isLiteral_of_opensNothing (opensNothing_of_fixed h text htext) p)

/-- A substitution of plain text replaces the variables of every string on its own. -/
theorem throughJson_of_insertsPlain {α : Type} {encode : α → Json} {value : α}
    (h : (encode value).Spaced) (hplain : context.InsertsPlain (encode value))
    (reader : Reader α) :
    context.throughJson encode reader value =
      reader Reader.levelLimit (.ofJson ((encode value).mapText (context.replace none))) := by
  refine run_replace hplain.shipped h (fun text htext => ?_) reader
  rw [toList_replace hplain.shipped]
  refine stringBody_bodyWith fun p hp => stringBody_of_isPlain fun c hc => ?_
  cases hinserted : context.insertion? none p with
  | some inserted =>
    rw [inserted_of_some hinserted] at hc
    exact hplain.plain text htext (.placeholder p) hp inserted hinserted c hc
  | none =>
    obtain ⟨-, -, hsource⟩ := Placeholder.source_of_atFront? (isWritten_of_mem_segments hp)
    rw [inserted_of_none hinserted] at hc
    exact hsource c hc

/-- Whatever a service of the library inserts may stand between the quotes of a JSON string: with a
closing quote behind it, it is read to its end as some text. -/
structure InsertsBodies (context : Context) : Prop where
  shipped : context.IsShipped
  read : ∀ p inserted, p.IsWritten → context.insertion? none p = some inserted →
    ∃ meant, readString (inserted.toList ++ ['"']) = some (some meant, [])

/-- The text that a placeholder stands for within a JSON string. -/
def meant (context : Context) (p : Placeholder) : List Char :=
  match readString (context.inserted none p ++ ['"']) with
  | some (some text, _) => text.toList
  | _ => []

/-- The text that a string stands for once its variables are replaced within JSON text. -/
def meaning (context : Context) (text : String) : String :=
  .ofList (insertAll context.meant text.toList)

theorem InsertsBodies.stringBody_meant (h : context.InsertsBodies) {p : Placeholder}
    (hp : p.IsWritten) : StringBody (context.inserted none p) (context.meant p) := by
  have hbody : ∃ text, StringBody (context.inserted none p) text := by
    cases hinserted : context.insertion? none p with
    | some inserted =>
      obtain ⟨text, htext⟩ := h.read p inserted hp hinserted
      obtain ⟨body, hbody, hmeans⟩ := exists_stringBody_of_readString htext
      refine ⟨text.toList, ?_⟩
      rw [inserted_of_some hinserted, List.append_cancel_right hbody]
      exact hmeans
    | none =>
      obtain ⟨-, -, hsource⟩ := Placeholder.source_of_atFront? hp
      refine ⟨p.source, ?_⟩
      rw [inserted_of_none hinserted]
      exact stringBody_of_isPlain hsource
  obtain ⟨text, htext⟩ := hbody
  have hmeant : context.meant p = text := by
    rw [meant, htext.readString []]
    exact String.toList_ofList
  rw [hmeant]
  exact htext

theorem meaning_fixesWords (context : Context) : FixesWords context.meaning := by
  intro text h
  rw [meaning, insertAll_eq_self h, String.ofList_toList]

theorem meaning_of_isLiteral {text : String} (h : IsLiteral text) :
    context.meaning text = text := by
  rw [meaning, insertAll_of_isLiteral h, String.ofList_toList]

/-- A substitution that inserts bodies of strings changes the texts of a value and nothing else. -/
theorem throughJson_of_insertsBodies {α : Type} {encode : α → Json} {value : α}
    (h : context.InsertsBodies) (hspaced : (encode value).Spaced) (reader : Reader α) :
    context.throughJson encode reader value =
      reader Reader.levelLimit (.ofJson ((encode value).mapText context.meaning)) := by
  refine run_replace h.shipped hspaced (fun text _ => ?_) reader
  rw [meaning, String.toList_ofList]
  exact stringBody_bodyWith fun p hp => h.stringBody_meant (isWritten_of_mem_segments hp)

end Context

theorem Value.format_single {value : String} (h : escapeMeta value = value)
    (format : Option String) : (Value.single value).format format = value := by
  unfold Value.format
  split
  case h_1 heq =>
    cases heq
    exact h
  case h_2 heq _ =>
    cases heq
    rfl
  all_goals contradiction

namespace Context

/-- One dashboard variable with a single value. -/
def ofSingle (name value : String) : Context :=
  ⟨.dashboard (.set .empty name (.ofValue (.single value))), .empty⟩

theorem insertion?_ofSingle {name value inserted : String} {p : Placeholder}
    (hmeta : escapeMeta value = value)
    (h : (ofSingle name value).insertion? none p = some inserted) : inserted = value := by
  obtain ⟨v, hv, rfl⟩ := Option.map_eq_some_iff.1 h
  have hknown : (Variables.set .empty name (.ofValue (.single value))).get? (.ofList p.name) =
      some v := hv
  by_cases hname : String.ofList p.name = name
  · rw [hname, Variables.get?_set_self] at hknown
    cases hknown
    exact Value.format_single hmeta _
  · rw [Variables.get?_set_of_ne _ _ hname] at hknown
    cases hknown

theorem insertsBodies_ofSingle {name value : String} (hmeta : escapeMeta value = value)
    (hplain : ArePlain value.toList) : (ofSingle name value).InsertsBodies := by
  refine ⟨trivial, fun p inserted _ hinserted => ?_⟩
  rw [insertion?_ofSingle hmeta hinserted]
  exact ⟨_, (stringBody_of_isPlain hplain).readString []⟩

end Context

end Template

end SeriesQuery
