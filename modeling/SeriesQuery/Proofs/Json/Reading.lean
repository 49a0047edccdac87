import Mathlib.Data.List.Forall2
import SeriesQuery.Json.Reader
import SeriesQuery.Proofs.Json.Printed

/-!
What a reading without a fault says about the text. Documents that were read are found again in the
text, one after the other, with the brackets and the commas between them.
-/

namespace SeriesQuery.Json

variable {n : Nat} {cs rest : List Char} {item next document : Document} {items : List Document}

theorem readItems_ne_nil (n : Nat) (cs : List Char) : (readItems n cs).1 ≠ [] := by
  cases n with
  | zero => simp [readItems]
  | succ n =>
    rw [readItems]
    split
    · simp
    · split <;> simp

theorem readItems_singleton (h : readItems n cs = ([item], some rest)) :
    ∃ m after, readDocument m cs = (item, some after) ∧ skipSpace after = ']' :: rest := by
  cases n with
  | zero => cases h
  | succ n =>
    rw [readItems] at h
    split at h
    · cases h
    · next first after hfirst =>
      split at h
      · next hafter =>
        cases h
        exact ⟨n, after, hfirst, hafter⟩
      · next more hafter =>
        simp only [Prod.mk.injEq, List.cons.injEq] at h
        exact absurd h.1.2 (readItems_ne_nil n more)
      · cases h

theorem readItems_cons_cons (h : readItems n cs = (item :: next :: items, some rest)) :
    ∃ m after more, readDocument m cs = (item, some after) ∧ skipSpace after = ',' :: more ∧
      readItems m more = (next :: items, some rest) := by
  cases n with
  | zero => cases h
  | succ n =>
    rw [readItems] at h
    split at h
    · cases h
    · next first after hfirst =>
      split at h
      · cases h
      · next more hafter =>
        simp only [Prod.mk.injEq, List.cons.injEq] at h
        obtain ⟨⟨rfl, hitems⟩, hrest⟩ := h
        exact ⟨n, after, more, hfirst, hafter, Prod.ext hitems hrest⟩
      · cases h

theorem readString_of_readDocument (h : readDocument n ('"' :: cs) = (document, some rest)) :
    ∃ text, document = .string text ∧ readString cs = some (text, rest) := by
  cases n with
  | zero => cases h
  | succ n =>
    cases hread : readString cs with
    | some result =>
      obtain ⟨text, after⟩ := result
      rw [readDocument_string n hread] at h
      cases h
      exact ⟨text, rfl, rfl⟩
    | none =>
      rw [readDocument, skipSpace_cons (by decide)] at h
      simp only [hread] at h
      cases h

theorem readItems_of_readDocument {c : Char} (hspace : isSpace c = false) (hc : c ≠ ']')
    (h : readDocument n ('[' :: c :: cs) = (.array items, some rest)) :
    ∃ m, readItems m (c :: cs) = (items, some rest) := by
  cases n with
  | zero => cases h
  | succ n =>
    rw [readDocument_array n hspace hc] at h
    simp only [Prod.mk.injEq, Document.array.injEq] at h
    exact ⟨n, Prod.ext h.1 h.2⟩

theorem readItems_after_string {body text : List Char} (hbody : StringBody body text)
    (h : readItems n ('"' :: (body ++ '"' :: ',' :: cs)) = (item :: next :: items, some rest)) :
    ∃ m, readItems m cs = (next :: items, some rest) := by
  obtain ⟨m, after, more, hdocument, hafter, hmore⟩ := readItems_cons_cons h
  obtain ⟨_, _, hread⟩ := readString_of_readDocument hdocument
  rw [hbody.readString] at hread
  cases hread
  rw [skipSpace_cons (by decide)] at hafter
  cases hafter
  exact ⟨m, hmore⟩

theorem notMem_of_skipSpace {c : Char} (hspace : isSpace c = false) (h : c ∉ skipSpace cs) :
    c ∉ cs := by
  intro hmem
  rw [← List.takeWhile_append_dropWhile (p := isSpace) (l := cs)] at hmem
  rcases List.mem_append.1 hmem with hmem | hmem
  · have hall := List.all_eq_true.1 List.all_takeWhile c hmem
    rw [hspace] at hall
    cases hall
  · exact h hmem

/-- A text is divided in one way only at the last occurrence of a character. -/
theorem eq_of_append_cons_eq {c : Char} {as bs us vs : List Char}
    (h : as ++ c :: us = bs ++ c :: vs) (hus : c ∉ us) (hvs : c ∉ vs) : as = bs := by
  rcases List.append_eq_append_iff.1 h with ⟨tail, hbs, htail⟩ | ⟨tail, has, htail⟩
  · cases tail with
    | nil => rw [hbs, List.append_nil]
    | cons d tail =>
      obtain ⟨-, rfl⟩ := List.cons.inj htail
      exact absurd (List.mem_append_right tail List.mem_cons_self) hus
  · cases tail with
    | nil => rw [has, List.append_nil]
    | cons d tail =>
      obtain ⟨-, rfl⟩ := List.cons.inj htail
      exact absurd (List.mem_append_right tail List.mem_cons_self) hvs

variable {levels : Nat} {text : String} {values : List Json}

/-- The document is read as this value, once the fields of its objects are sorted. -/
def Document.ReadsAs (levels : Nat) (document : Document) (v : Json) : Prop :=
  ∃ unsorted, document.toJson? levels = some unsorted ∧ unsorted.sorted = v

theorem Document.ReadsAs.eq_string (h : document.ReadsAs levels (.string text)) :
    document = .string (some text) := by
  obtain ⟨unsorted, hread, hsorted⟩ := h
  have hstring : unsorted = .string text := by
    cases unsorted <;> cases hsorted
    rfl
  subst hstring
  cases document with
  | string found =>
    obtain ⟨_, hfound, hstring⟩ := Option.map_eq_some_iff.1 hread
    cases hstring
    rw [hfound]
  | number literal =>
    obtain ⟨_, _, hnumber⟩ := Option.map_eq_some_iff.1 hread
    cases hnumber
  | array documents =>
    cases levels with
    | zero => cases hread
    | succ levels =>
      obtain ⟨_, _, harray⟩ := Option.map_eq_some_iff.1 hread
      cases harray
  | object fields =>
    cases levels with
    | zero => cases hread
    | succ levels =>
      obtain ⟨_, _, hobject⟩ := Option.map_eq_some_iff.1 hread
      cases hobject
  | fault | null | bool _ => cases hread

theorem forall₂_readsAs {documents : List Document} {unsorted : List Json}
    (h : Document.itemsToJson? levels documents = some unsorted) :
    List.Forall₂ (Document.ReadsAs levels) documents (sortedItems unsorted) := by
  induction documents generalizing unsorted with
  | nil =>
    cases h
    exact .nil
  | cons document documents ih =>
    obtain ⟨item, hitem, h⟩ := Option.bind_eq_some_iff.1 h
    obtain ⟨items, hitems, h⟩ := Option.bind_eq_some_iff.1 h
    cases h
    exact .cons ⟨item, hitem, rfl⟩ (ih hitems)

theorem Document.ReadsAs.exists_items (h : document.ReadsAs levels (.array values)) :
    ∃ inner documents, document = .array documents ∧
      List.Forall₂ (Document.ReadsAs inner) documents values := by
  obtain ⟨unsorted, hread, hsorted⟩ := h
  cases document with
  | array documents =>
    cases levels with
    | zero => cases hread
    | succ levels =>
      obtain ⟨others, hothers, rfl⟩ := Option.map_eq_some_iff.1 hread
      cases hsorted
      exact ⟨levels, documents, rfl, forall₂_readsAs hothers⟩
  | string found =>
    obtain ⟨_, _, rfl⟩ := Option.map_eq_some_iff.1 hread
    cases hsorted
  | number literal =>
    obtain ⟨_, _, rfl⟩ := Option.map_eq_some_iff.1 hread
    cases hsorted
  | object fields =>
    cases levels with
    | zero => cases hread
    | succ levels =>
      obtain ⟨_, _, rfl⟩ := Option.map_eq_some_iff.1 hread
      cases hsorted
  | fault => cases hread
  | null | bool _ =>
    cases hread
    cases hsorted

/-- A text that gives a value is read to its end. -/
theorem Reader.exists_document_of_run {α : Type} {reader : Reader α} {whole : String} {a : α}
    (h : reader.run whole = .ok a) :
    ∃ document rest, Document.ofChars whole.toList = (document, some rest) ∧
      skipSpace rest = [] ∧ reader levelLimit document = .ok a := by
  unfold Reader.run at h
  generalize Document.ofChars whole.toList = found at h
  obtain ⟨document, rest⟩ := found
  dsimp only at h
  split at h
  · cases h
  · next value hvalue =>
    cases rest with
    | none => cases h
    | some rest =>
      by_cases hend : (skipSpace rest).isEmpty = true
      · simp only [hend, if_true] at h
        cases h
        exact ⟨document, rest, rfl, List.isEmpty_iff.1 hend, hvalue⟩
      · simp only [hend] at h
        cases h

/-- If an array of a string and of an array of three strings is read as one, the last string is
read from its own body. -/
theorem stringBody_of_readDocument {body : String → List Char} {first second third last : String}
    {x y z : List Char} {a b c : Document} (hfirst : StringBody (body first) x)
    (hsecond : StringBody (body second) y) (hthird : StringBody (body third) z)
    (h : readDocument n (charsWith body
      (.array [.string first, .array [.string second, .string third, .string last]])) =
        (.array [a, .array [b, c, .string (some text)]], some rest))
    (hrest : skipSpace rest = []) : StringBody (body last) text.toList := by
  simp only [charsWith, itemCharsWith, List.cons_append, List.append_assoc, List.nil_append] at h
  obtain ⟨_, houter⟩ := readItems_of_readDocument (by decide) (by decide) h
  obtain ⟨_, houter⟩ := readItems_after_string hfirst houter
  obtain ⟨_, after, hinner, hafter⟩ := readItems_singleton houter
  obtain ⟨_, hinner⟩ := readItems_of_readDocument (by decide) (by decide) hinner
  obtain ⟨_, hinner⟩ := readItems_after_string hsecond hinner
  obtain ⟨_, hinner⟩ := readItems_after_string hthird hinner
  obtain ⟨_, close, hlast, hclose⟩ := readItems_singleton hinner
  obtain ⟨_, htext, hread⟩ := readString_of_readDocument hlast
  cases htext
  obtain ⟨found, hfound, hbody⟩ := exists_stringBody_of_readString hread
  -- Behind the last string stand brackets and white space, so its closing quote is the last one.
  have hquote : isSpace '"' = false := by decide
  have hrest : '"' ∉ rest := notMem_of_skipSpace hquote (by simp [hrest])
  have hafter : '"' ∉ after := notMem_of_skipSpace hquote (by simp [hafter, hrest])
  have hclose : '"' ∉ close := notMem_of_skipSpace hquote (by simp [hclose, hafter])
  rw [eq_of_append_cons_eq hfound (by decide) hclose]
  exact hbody

end SeriesQuery.Json
