import SeriesQuery.Proofs.Json.StringBody
import SeriesQuery.Template.Service

/-!
Placeholders within printed strings. A string of a JSON text is divided into the placeholders that
the string itself has, and into the escapes of its other characters.
-/

namespace SeriesQuery

namespace Text

theorem inRanges_of_lt {low high n : Nat} {rest : List (Nat × Nat)} (h : n < low) :
    inRanges ((low, high) :: rest) n = false := by
  rw [inRanges, if_pos h]

/-- The characters before the digits belong to no word. -/
theorem not_isWord_of_lt {c : Char} (h : c.toNat < 0x30) : isWord c = false := by
  have halphabetic : isAlphabetic c = false := inRanges_of_lt (by omega)
  have hmark : isMark c = false := inRanges_of_lt (by omega)
  have hdecimal : isDecimal c = false := inRanges_of_lt (by omega)
  have hconnector : inRanges connectorRanges c.toNat = false := inRanges_of_lt (by omega)
  have hjoiner : inRanges joinerRanges c.toNat = false := inRanges_of_lt (by omega)
  simp [isWord, halphabetic, hmark, hdecimal, hconnector, hjoiner]

theorem not_isWord_colon : isWord ':' = false := by decide

theorem not_isWord_brace : isWord '{' = false := by decide

end Text

namespace Json

theorem isPlain_of_isWord {c : Char} (h : Text.isWord c = true) : IsPlain c := by
  refine ⟨?_, ?_, ?_⟩
  · rintro rfl
    exact absurd h (by decide)
  · rintro rfl
    exact absurd h (by decide)
  · rcases Nat.lt_or_ge c.toNat 0x20 with hlow | hhigh
    · rw [Text.not_isWord_of_lt (by omega)] at h
      cases h
    · exact hhigh

theorem exists_escaped_eq_cons {c : Char} (h : ¬ Text.isWord c = true) :
    ∃ d rest, escaped c = d :: rest ∧ Text.isWord d = false := by
  by_cases hc : IsPlain c
  · exact ⟨c, [], escaped_of_isPlain hc, by simpa using h⟩
  · obtain ⟨escape, hescape, -⟩ := escaped_of_not_isPlain hc
    exact ⟨'\\', escape, hescape, by decide⟩

end Json

namespace Template

open Json Text

variable {cs rest : List Char} {p : Placeholder}

theorem takeWhile_isWord_printed (cs rest : List Char) :
    (cs.flatMap escaped ++ '"' :: rest).takeWhile isWord = cs.takeWhile isWord := by
  induction cs with
  | nil => simp [not_isWord_of_lt (c := '"') (by decide)]
  | cons c cs ih =>
    by_cases hc : isWord c = true
    · simp [escaped_of_isPlain (isPlain_of_isWord hc), hc, ih]
    · obtain ⟨d, tail, htail, hd⟩ := exists_escaped_eq_cons hc
      simp [htail, hd, hc]

theorem dropWhile_isWord_printed (cs rest : List Char) :
    (cs.flatMap escaped ++ '"' :: rest).dropWhile isWord =
      (cs.dropWhile isWord).flatMap escaped ++ '"' :: rest := by
  induction cs with
  | nil => simp [not_isWord_of_lt (c := '"') (by decide)]
  | cons c cs ih =>
    by_cases hc : isWord c = true
    · simp [escaped_of_isPlain (isPlain_of_isWord hc), hc, ih]
    · obtain ⟨d, tail, htail, hd⟩ := exists_escaped_eq_cons hc
      simp [htail, hd, hc]

/-- No closing characters lie across the end of a string. -/
theorem isPrefixOf_printed {closing : List Char} (hclosing : ArePlain closing)
    (cs rest : List Char) :
    closing.isPrefixOf (cs.flatMap escaped ++ '"' :: rest) = closing.isPrefixOf cs := by
  induction closing generalizing cs with
  | nil => simp
  | cons k closing ih =>
    obtain ⟨hk, hclosing⟩ := List.forall_mem_cons.1 hclosing
    cases cs with
    | nil => simp [List.isPrefixOf_cons_cons, hk.1]
    | cons c cs =>
      by_cases hc : IsPlain c
      · simp [List.isPrefixOf_cons_cons, escaped_of_isPlain hc, ih hclosing]
      · obtain ⟨escape, hescape, -⟩ := escaped_of_not_isPlain hc
        have hslash : (k == '\\') = false := by simpa using hk.2.1
        have hne : (k == c) = false := by
          simp only [beq_eq_false_iff_ne]
          rintro rfl
          exact hc hk
        simp [List.isPrefixOf_cons_cons, hescape, hslash, hne]

/-- Only what begins a string begins it when it is printed. -/
theorem exists_of_printed_eq_cons {d : Char} {tail : List Char} (hd : d ≠ '"' ∧ d ≠ '\\')
    (h : cs.flatMap escaped ++ '"' :: rest = d :: tail) :
    ∃ after, cs = d :: after ∧ tail = after.flatMap escaped ++ '"' :: rest := by
  cases cs with
  | nil =>
    cases h
    exact absurd rfl hd.1
  | cons c cs =>
    by_cases hc : IsPlain c
    · rw [List.flatMap_cons, escaped_of_isPlain hc] at h
      cases h
      exact ⟨cs, rfl, rfl⟩
    · obtain ⟨escape, hescape, -⟩ := escaped_of_not_isPlain hc
      rw [List.flatMap_cons, hescape] at h
      cases h
      exact absurd rfl hd.2

namespace Placeholder

theorem enclosed?_of_format {opening closing after : List Char}
    (h : cs.dropWhile isWord = ':' :: after) :
    enclosed? opening closing cs =
      if (cs.takeWhile isWord).isEmpty then none
      else if !(after.takeWhile isWord).isEmpty && closing.isPrefixOf (after.dropWhile isWord) then
        some ⟨cs.takeWhile isWord, some (after.takeWhile isWord),
          opening ++ cs.takeWhile isWord ++ ':' :: after.takeWhile isWord ++ closing⟩
      else none := by
  simp only [enclosed?, h]

theorem enclosed?_of_no_format {opening closing : List Char}
    (h : ∀ after, cs.dropWhile isWord ≠ ':' :: after) :
    enclosed? opening closing cs =
      if (cs.takeWhile isWord).isEmpty then none
      else if closing.isPrefixOf (cs.dropWhile isWord) then
        some ⟨cs.takeWhile isWord, none, opening ++ cs.takeWhile isWord ++ closing⟩
      else none := by
  unfold enclosed?
  dsimp only
  split
  · rfl
  · split
    · next after hafter => exact absurd hafter (h after)
    · rfl

theorem enclosed?_printed (opening : List Char) {closing : List Char}
    (hclosing : ArePlain closing) (cs rest : List Char) :
    enclosed? opening closing (cs.flatMap escaped ++ '"' :: rest) =
      enclosed? opening closing cs := by
  have hprinted := dropWhile_isWord_printed cs rest
  by_cases hformat : ∃ after, cs.dropWhile isWord = ':' :: after
  · obtain ⟨after, hafter⟩ := hformat
    rw [hafter, List.flatMap_cons, escaped_of_isPlain (by decide), List.singleton_append,
      List.cons_append] at hprinted
    rw [enclosed?_of_format hafter, enclosed?_of_format hprinted, takeWhile_isWord_printed,
      takeWhile_isWord_printed, dropWhile_isWord_printed, isPrefixOf_printed hclosing]
  · have hnone : ∀ after, cs.dropWhile isWord ≠ ':' :: after := fun after h => hformat ⟨after, h⟩
    rw [enclosed?_of_no_format hnone, enclosed?_of_no_format, takeWhile_isWord_printed, hprinted,
      isPrefixOf_printed hclosing]
    intro after hafter
    obtain ⟨tail, htail, -⟩ := exists_of_printed_eq_cons (by decide) (hprinted ▸ hafter)
    exact hnone tail htail

theorem atFront?_dollar (h : ∀ rest, cs ≠ '{' :: rest) :
    atFront? ('$' :: cs) =
      if (cs.takeWhile isWord).isEmpty then none
      else some ⟨cs.takeWhile isWord, none, '$' :: cs.takeWhile isWord⟩ := by
  unfold atFront?
  split
  next hcs =>
    cases hcs
    exact absurd rfl (h _)
  next hcs =>
    cases hcs
    rfl
  next hcs => cases hcs
  next hdollar _ => exact absurd rfl (hdollar cs)

theorem atFront?_none (hdollar : ∀ rest, cs ≠ '$' :: rest)
    (hbrackets : ∀ rest, cs ≠ '[' :: '[' :: rest) : atFront? cs = none := by
  unfold atFront?
  split
  · exact absurd rfl (hdollar _)
  · exact absurd rfl (hdollar _)
  · exact absurd rfl (hbrackets _)
  · rfl

/-- A placeholder at the front of a string is found by the string alone. -/
theorem atFront?_printed (cs rest : List Char) :
    atFront? (cs.flatMap escaped ++ '"' :: rest) = atFront? cs := by
  by_cases hdollar : ∃ tail, cs = '$' :: tail
  · obtain ⟨tail, rfl⟩ := hdollar
    rw [List.flatMap_cons, escaped_of_isPlain (by decide), List.singleton_append,
      List.cons_append]
    by_cases hbrace : ∃ inner, tail = '{' :: inner
    · obtain ⟨inner, rfl⟩ := hbrace
      rw [List.flatMap_cons, escaped_of_isPlain (by decide)]
      exact enclosed?_printed _ (by decide) inner rest
    · have hnone : ∀ inner, tail ≠ '{' :: inner := fun inner h => hbrace ⟨inner, h⟩
      rw [atFront?_dollar hnone, atFront?_dollar, takeWhile_isWord_printed]
      intro inner h
      obtain ⟨after, hafter, -⟩ := exists_of_printed_eq_cons (by decide) h
      exact hnone after hafter
  by_cases hbrackets : ∃ tail, cs = '[' :: '[' :: tail
  · obtain ⟨tail, rfl⟩ := hbrackets
    rw [List.flatMap_cons, List.flatMap_cons, escaped_of_isPlain (by decide)]
    exact enclosed?_printed _ (by decide) tail rest
  have hdollar : ∀ tail, cs ≠ '$' :: tail := fun tail h => hdollar ⟨tail, h⟩
  have hbrackets : ∀ tail, cs ≠ '[' :: '[' :: tail := fun tail h => hbrackets ⟨tail, h⟩
  rw [atFront?_none hdollar hbrackets, atFront?_none]
  · intro tail h
    obtain ⟨after, hafter, -⟩ := exists_of_printed_eq_cons (by decide) h
    exact hdollar after hafter
  · intro tail h
    obtain ⟨after, hafter, htail⟩ := exists_of_printed_eq_cons (by decide) h
    obtain ⟨inner, rfl, -⟩ := exists_of_printed_eq_cons (by decide) htail.symm
    exact hbrackets inner hafter

theorem isPlain_of_mem_takeWhile {c : Char} (h : c ∈ cs.takeWhile isWord) : IsPlain c :=
  isPlain_of_isWord (List.all_eq_true.1 List.all_takeWhile c h)

theorem source_of_enclosed? {opening closing : List Char} (hne : opening ≠ [])
    (hopening : ArePlain opening) (hclosing : ArePlain closing)
    (h : enclosed? opening closing cs = some p) :
    p.source ≠ [] ∧ p.source <+: opening ++ cs ∧ ArePlain p.source := by
  have hwhole := List.takeWhile_append_dropWhile (p := isWord) (l := cs)
  by_cases hformat : ∃ after, cs.dropWhile isWord = ':' :: after
  · obtain ⟨after, hafter⟩ := hformat
    rw [enclosed?_of_format hafter, Option.ite_none_left_eq_some,
      Option.ite_none_right_eq_some] at h
    obtain ⟨-, hclosed, hp⟩ := h
    cases hp
    obtain ⟨-, hprefix⟩ := Bool.and_eq_true_iff.1 hclosed
    obtain ⟨rest, hrest⟩ := List.isPrefixOf_iff_prefix.1 hprefix
    have hafterWhole := List.takeWhile_append_dropWhile (p := isWord) (l := after)
    refine ⟨by simp [hne], ⟨rest, ?_⟩, ?_⟩
    · calc
        _ = opening ++ (cs.takeWhile isWord ++
              ':' :: (after.takeWhile isWord ++ (closing ++ rest))) := by simp
        _ = opening ++ cs := by rw [hrest, hafterWhole, ← hafter, hwhole]
    · simp only [ArePlain, List.mem_append, List.mem_cons]
      rintro c (((hc | hc) | rfl | hc) | hc)
      · exact hopening c hc
      · exact isPlain_of_mem_takeWhile hc
      · decide
      · exact isPlain_of_mem_takeWhile hc
      · exact hclosing c hc
  · rw [enclosed?_of_no_format fun after h => hformat ⟨after, h⟩, Option.ite_none_left_eq_some,
      Option.ite_none_right_eq_some] at h
    obtain ⟨-, hprefix, hp⟩ := h
    cases hp
    obtain ⟨rest, hrest⟩ := List.isPrefixOf_iff_prefix.1 hprefix
    refine ⟨by simp [hne], ⟨rest, ?_⟩, ?_⟩
    · calc
        _ = opening ++ (cs.takeWhile isWord ++ (closing ++ rest)) := by simp
        _ = opening ++ cs := by rw [hrest, hwhole]
    · simp only [ArePlain, List.mem_append]
      rintro c ((hc | hc) | hc)
      · exact hopening c hc
      · exact isPlain_of_mem_takeWhile hc
      · exact hclosing c hc

/-- A placeholder at the front of a text is written there, in characters that stand for themselves.
-/
theorem source_of_atFront? (h : atFront? cs = some p) :
    p.source ≠ [] ∧ p.source <+: cs ∧ ArePlain p.source := by
  unfold atFront? at h
  split at h
  · exact source_of_enclosed? (by simp) (by decide) (by decide) h
  · obtain ⟨-, hp⟩ := Option.ite_none_left_eq_some.1 h
    cases hp
    refine ⟨by simp, List.cons_prefix_cons.2 ⟨rfl, List.takeWhile_prefix _⟩, ?_⟩
    rintro c (_ | ⟨_, hc⟩)
    · decide
    · exact isPlain_of_mem_takeWhile hc
  · exact source_of_enclosed? (by simp) (by decide) (by decide) h
  · cases h

/-- A placeholder as a scan may find it: it is found again where it is written. -/
def IsWritten (p : Placeholder) : Prop :=
  atFront? p.source = some p

theorem takeWhile_append_closing (closing : List Char)
    (hstop : ∀ c ∈ closing.head?, isWord c = false) (cs : List Char) :
    (cs.takeWhile isWord ++ closing).takeWhile isWord = cs.takeWhile isWord ∧
      (cs.takeWhile isWord ++ closing).dropWhile isWord = closing := by
  have hword : ∀ c ∈ cs.takeWhile isWord, isWord c = true := List.all_eq_true.1 List.all_takeWhile
  rw [List.takeWhile_append_of_pos hword, List.dropWhile_append_of_pos hword]
  cases closing with
  | nil => simp
  | cons c closing => simp [hstop c rfl]

theorem enclosed?_source {opening closing : List Char} {stop : Char}
    (hstop : isWord stop = false) (hcolon : stop ≠ ':')
    (h : enclosed? opening (stop :: closing) cs = some p) :
    ∃ inner, p.source = opening ++ inner ∧ enclosed? opening (stop :: closing) inner = some p := by
  have hhead : ∀ c ∈ (stop :: closing).head?, isWord c = false := by
    intro c hc
    cases hc
    exact hstop
  by_cases hformat : ∃ after, cs.dropWhile isWord = ':' :: after
  · obtain ⟨after, hafter⟩ := hformat
    rw [enclosed?_of_format hafter, Option.ite_none_left_eq_some,
      Option.ite_none_right_eq_some] at h
    obtain ⟨hname, hclosed, hp⟩ := h
    obtain ⟨hformat, -⟩ := Bool.and_eq_true_iff.1 hclosed
    have hafter := takeWhile_append_closing _ hhead after
    have hinner := takeWhile_append_closing (':' :: (after.takeWhile isWord ++ stop :: closing))
      (by simp [not_isWord_colon]) cs
    refine ⟨cs.takeWhile isWord ++ ':' :: (after.takeWhile isWord ++ stop :: closing), ?_, ?_⟩
    · rw [← Option.some.inj hp]
      simp
    · rw [enclosed?_of_format hinner.2, hinner.1, hafter.1, hafter.2, if_neg hname, if_pos, hp]
      simp [hformat]
  · rw [enclosed?_of_no_format fun after h => hformat ⟨after, h⟩, Option.ite_none_left_eq_some,
      Option.ite_none_right_eq_some] at h
    obtain ⟨hname, -, hp⟩ := h
    have hinner := takeWhile_append_closing _ hhead cs
    refine ⟨cs.takeWhile isWord ++ stop :: closing, ?_, ?_⟩
    · rw [← Option.some.inj hp]
      simp
    · rw [enclosed?_of_no_format, hinner.1, hinner.2, if_neg hname, if_pos, hp]
      · simp
      · intro after hafter
        rw [hinner.2] at hafter
        exact hcolon (List.cons.inj hafter).1

theorem isWritten_of_atFront? (h : atFront? cs = some p) : p.IsWritten := by
  unfold IsWritten
  unfold atFront? at h
  split at h
  · obtain ⟨inner, hsource, hinner⟩ := enclosed?_source (by decide) (by decide) h
    rw [hsource]
    exact hinner
  · next rest hbrace =>
    obtain ⟨hname, hp⟩ := Option.ite_none_left_eq_some.1 h
    cases hp
    have hself := takeWhile_append_closing [] (by simp) rest
    rw [List.append_nil] at hself
    rw [atFront?_dollar, hself.1, if_neg hname]
    intro after hafter
    have hmem : '{' ∈ rest.takeWhile isWord := hafter ▸ List.mem_cons_self
    have hword := List.all_eq_true.1 List.all_takeWhile _ hmem
    rw [not_isWord_brace] at hword
    cases hword
  · obtain ⟨inner, hsource, hinner⟩ := enclosed?_source (by decide) (by decide) h
    rw [hsource]
    exact hinner
  · cases h

end Placeholder

open Placeholder

theorem segments_of_placeholder {after : List Char} (h : atFront? (p.source ++ after) = some p) :
    segments (p.source ++ after) = .placeholder p :: segments after := by
  obtain ⟨hne, -, -⟩ := source_of_atFront? h
  cases hsource : p.source with
  | nil => exact absurd hsource hne
  | cons c source =>
    rw [hsource, List.cons_append] at h
    rw [List.cons_append, segments, segmentsAfter, h]
    simp only [segmentsAfter_eq_drop, hsource, List.length_cons, Nat.add_sub_cancel, List.drop_left]

theorem segments_of_char {c : Char} (h : atFront? (c :: cs) = none) :
    segments (c :: cs) = .char c :: segments cs := by
  rw [segments, segmentsAfter, h]
  rfl

/-- No placeholder begins at any of the characters. -/
def OpensNothing (cs : List Char) : Prop :=
  ∀ c ∈ cs, c ≠ '$' ∧ c ≠ '['

instance : DecidablePred OpensNothing := fun cs =>
  List.decidableBAll (fun c => c ≠ '$' ∧ c ≠ '[') cs

/-- Where no placeholder begins, every character stands for itself. -/
theorem segments_append (h : OpensNothing cs) (rest : List Char) :
    segments (cs ++ rest) = cs.map .char ++ segments rest := by
  induction cs with
  | nil => rfl
  | cons c cs ih =>
    obtain ⟨⟨hdollar, hbracket⟩, hcs⟩ := List.forall_mem_cons.1 h
    rw [List.cons_append, segments_of_char, ih hcs]
    · rfl
    · exact atFront?_none (fun _ h => hdollar (List.cons.inj h).1)
        fun _ h => hbracket (List.cons.inj h).1

/-- A segment of a text as it stands in the printed string. -/
def Segment.printed : Segment → List Segment
  | .char c => (escaped c).map .char
  | .placeholder p => [.placeholder p]

/-- A text is scanned placeholder by placeholder and character by character. -/
theorem scan_induction {P : List Char → Prop} (hnil : P [])
    (hplaceholder : ∀ p after, atFront? (p.source ++ after) = some p → P after →
      P (p.source ++ after))
    (hchar : ∀ c cs, atFront? (c :: cs) = none → P cs → P (c :: cs)) (cs : List Char) : P cs := by
  cases hfront : atFront? cs with
  | some p =>
    obtain ⟨hne, ⟨after, rfl⟩, -⟩ := source_of_atFront? hfront
    have hshorter : after.length < (p.source ++ after).length := by
      have hpos := List.length_pos_iff.2 hne
      rw [List.length_append]
      omega
    exact hplaceholder p after hfront (scan_induction hnil hplaceholder hchar after)
  | none =>
    cases cs with
    | nil => exact hnil
    | cons c cs => exact hchar c cs hfront (scan_induction hnil hplaceholder hchar cs)
termination_by cs.length

/-- The segments of a printed string are those of the string, with its characters escaped; they end
where the string ends. -/
theorem segments_printed (cs rest : List Char) :
    segments (cs.flatMap escaped ++ '"' :: rest) =
      (segments cs).flatMap Segment.printed ++ .char '"' :: segments rest := by
  induction cs using scan_induction with
  | hnil => exact segments_append (by decide : OpensNothing ['"']) rest
  | hplaceholder p after hp ih =>
    obtain ⟨-, -, hplain⟩ := source_of_atFront? hp
    have hfront := atFront?_printed (p.source ++ after) rest
    rw [hp, List.flatMap_append, flatMap_escaped_of_isPlain hplain, List.append_assoc] at hfront
    rw [List.flatMap_append, flatMap_escaped_of_isPlain hplain, List.append_assoc,
      segments_of_placeholder hfront, segments_of_placeholder hp, ih]
    rfl
  | hchar c cs hc ih =>
    rw [segments_of_char hc]
    by_cases hplain : IsPlain c
    · have hfront := atFront?_printed (c :: cs) rest
      rw [hc, List.flatMap_cons, escaped_of_isPlain hplain, List.append_assoc,
        List.singleton_append] at hfront
      rw [List.flatMap_cons, escaped_of_isPlain hplain, List.append_assoc, List.singleton_append,
        segments_of_char hfront, ih]
      simp [Segment.printed, escaped_of_isPlain hplain]
    · obtain ⟨_, -, hinert⟩ := escaped_of_not_isPlain hplain
      rw [List.flatMap_cons, List.append_assoc, segments_append hinert, ih]
      simp [Segment.printed]

/-- Every placeholder of a text is one that a scan finds where it is written. -/
theorem isWritten_of_mem_segments (h : .placeholder p ∈ segments cs) : p.IsWritten := by
  induction cs using scan_induction with
  | hnil => cases h
  | hplaceholder q after hq ih =>
    rw [segments_of_placeholder hq] at h
    rcases List.mem_cons.1 h with hp | h
    · cases hp
      exact isWritten_of_atFront? hq
    · exact ih h
  | hchar c cs hc ih =>
    rw [segments_of_char hc] at h
    rcases List.mem_cons.1 h with hp | h
    · cases hp
    · exact ih h

end Template

end SeriesQuery
