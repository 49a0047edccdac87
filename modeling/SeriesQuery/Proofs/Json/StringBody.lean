import SeriesQuery.Json.Parse

/-!
What may stand between the quotes of a JSON string, and which text it is. Bodies can be put
together, and the reading of a string ends at the first quote that belongs to no escape.
-/

namespace SeriesQuery.Json

/-- A character that stands for itself in a string. -/
def IsPlain (c : Char) : Prop :=
  c ≠ '"' ∧ c ≠ '\\' ∧ 0x20 ≤ c.toNat

instance : DecidablePred IsPlain := fun _ => inferInstanceAs (Decidable (_ ∧ _ ∧ _))

/-- Every character stands for itself. -/
def ArePlain (cs : List Char) : Prop :=
  ∀ c ∈ cs, IsPlain c

instance : DecidablePred ArePlain := fun cs => List.decidableBAll IsPlain cs

theorem escaped_of_isPlain {c : Char} (h : IsPlain c) : escaped c = [c] := by
  obtain ⟨hquote, hslash, hlow⟩ := h
  unfold escaped
  split <;> first | contradiction | skip
  all_goals first | exact absurd hlow (by decide) | rw [if_neg (by omega)]

theorem flatMap_escaped_of_isPlain {cs : List Char} (h : ArePlain cs) :
    cs.flatMap escaped = cs := by
  induction cs with
  | nil => rfl
  | cons c cs ih =>
    obtain ⟨hc, hcs⟩ := List.forall_mem_cons.1 h
    rw [List.flatMap_cons, escaped_of_isPlain hc, ih hcs, List.singleton_append]

/-- An escape begins with a backslash and holds nothing that could begin a placeholder. -/
theorem escaped_of_not_isPlain {c : Char} (h : ¬ IsPlain c) :
    ∃ escape, escaped c = '\\' :: escape ∧ ∀ d ∈ escaped c, d ≠ '$' ∧ d ≠ '[' := by
  have hdigit : ∀ n < 16, Nat.digitChar n ≠ '$' ∧ Nat.digitChar n ≠ '[' := by decide
  unfold escaped
  split
  case h_8 hquote hslash _ _ _ _ _ =>
    have hlow : c.toNat < 0x20 :=
      Nat.lt_of_not_le fun hhigh => h ⟨hquote, hslash, hhigh⟩
    have hhigh := hdigit (c.toNat / 16) (by omega)
    have hrest := hdigit (c.toNat % 16) (by omega)
    rw [if_pos hlow]
    exact ⟨_, rfl, by simp [hhigh, hrest]⟩
  all_goals exact ⟨_, rfl, by simp⟩

/-- Characters of a string that are read as these units, whatever follows. -/
def Spells (body : List Char) (units : List StringUnit) : Prop :=
  ∀ rest, readUnits (body ++ rest) =
    (readUnits rest).map fun (more, after) => (units ++ more, after)

theorem spells_nil : Spells [] [] := fun rest => by simp

theorem Spells.append {body other : List Char} {units more : List StringUnit}
    (h : Spells body units) (hother : Spells other more) :
    Spells (body ++ other) (units ++ more) := by
  intro rest
  rw [List.append_assoc, h, hother, Option.map_map]
  simp [Function.comp_def]

theorem spells_code {a b c d : Char} {code : Nat} (h : hexNumber? [a, b, c, d] = some code) :
    Spells ['\\', 'u', a, b, c, d] [.code code] := by
  intro rest
  simp only [List.cons_append, List.nil_append]
  rw [readUnits, h]
  cases readUnits rest <;> rfl

theorem spells_escape {c meant : Char} (h : unescape? c = some meant) :
    Spells ['\\', c] [.char meant] := by
  intro rest
  simp only [List.cons_append, List.nil_append]
  rw [readUnits, h]
  · cases readUnits rest <;> rfl
  · rintro a b c d rest rfl
    cases h

theorem spells_of_isPlain {c : Char} (h : IsPlain c) : Spells [c] [.char c] := by
  obtain ⟨hquote, hslash, hlow⟩ := h
  intro rest
  simp only [List.cons_append, List.nil_append]
  rw [readUnits, if_neg (by omega)]
  · cases readUnits rest <;> rfl
  · exact hquote
  · intro a b c d rest hc
    exact absurd hc hslash
  · intro c rest hc
    exact absurd hc hslash

/-- Whatever is read as the units of a string is their spelling up to a closing quote. -/
theorem exists_spells_of_readUnits {cs after : List Char} {units : List StringUnit}
    (h : readUnits cs = some (units, after)) :
    ∃ body, cs = body ++ '"' :: after ∧ Spells body units := by
  fun_induction readUnits cs generalizing units with
  | case1 => cases h
  | case2 rest =>
    cases h
    exact ⟨[], rfl, spells_nil⟩
  | case3 a b c d rest ih =>
    obtain ⟨code, hcode, h⟩ := Option.bind_eq_some_iff.1 h
    obtain ⟨⟨more, after⟩, hrest, h⟩ := Option.bind_eq_some_iff.1 h
    cases h
    obtain ⟨body, rfl, hbody⟩ := ih hrest
    exact ⟨_, rfl, (spells_code hcode).append hbody⟩
  | case4 c rest _ ih =>
    obtain ⟨meant, hmeant, h⟩ := Option.bind_eq_some_iff.1 h
    obtain ⟨⟨more, after⟩, hrest, h⟩ := Option.bind_eq_some_iff.1 h
    cases h
    obtain ⟨body, rfl, hbody⟩ := ih hrest
    exact ⟨_, rfl, (spells_escape hmeant).append hbody⟩
  | case5 => cases h
  | case6 c rest hquote _ hslash hhigh ih =>
    obtain ⟨⟨more, after⟩, hrest, h⟩ := Option.bind_eq_some_iff.1 h
    cases h
    obtain ⟨body, rfl, hbody⟩ := ih hrest
    have hplain : IsPlain c := by
      refine ⟨hquote, fun hc => ?_, by omega⟩
      cases hcs : body ++ '"' :: after with
      | nil => simp at hcs
      | cons d tail => exact hslash d tail hc hcs
    exact ⟨_, rfl, (spells_of_isPlain hplain).append hbody⟩

theorem unitChars?_pair {high low : Nat} (hhigh : isHighSurrogate high = true)
    (hlow : isLowSurrogate low = true) (rest : List StringUnit) :
    unitChars? (.code high :: .code low :: rest) = (unitChars? rest).map
      (Char.ofNat (0x10000 + (high - 0xD800) * 0x400 + (low - 0xDC00)) :: ·) := by
  rw [unitChars?, if_pos hhigh, if_pos hlow]

theorem unitChars?_code {n : Nat} (hhigh : isHighSurrogate n = false)
    (hlow : isLowSurrogate n = false) (rest : List StringUnit) :
    unitChars? (.code n :: rest) = (unitChars? rest).map (Char.ofNat n :: ·) := by
  cases rest with
  | nil => simp [unitChars?, hhigh, hlow]
  | cons unit rest => cases unit <;> simp [unitChars?, hhigh, hlow]

theorem unitChars?_append {units more : List StringUnit} {text : List Char}
    (h : unitChars? units = some text) :
    unitChars? (units ++ more) = (unitChars? more).map (text ++ ·) := by
  fun_induction unitChars? units generalizing text with
  | case1 =>
    cases h
    simp
  | case2 high low rest hhigh hlow ih =>
    obtain ⟨tail, htail, rfl⟩ := Option.map_eq_some_iff.1 h
    rw [List.cons_append, List.cons_append, unitChars?_pair hhigh hlow, ih htail, Option.map_map]
    rfl
  | case5 high low rest hhigh hlow ih =>
    obtain ⟨tail, htail, rfl⟩ := Option.map_eq_some_iff.1 h
    rw [List.cons_append, unitChars?_code (by simpa using hhigh) (by simpa using hlow), ih htail,
      Option.map_map]
    rfl
  | case7 n rest _ hlone ih =>
    obtain ⟨tail, htail, rfl⟩ := Option.map_eq_some_iff.1 h
    simp only [Bool.or_eq_true, not_or, Bool.not_eq_true] at hlone
    rw [List.cons_append, unitChars?_code hlone.1 hlone.2, ih htail, Option.map_map]
    rfl
  | case8 c rest ih =>
    obtain ⟨tail, htail, rfl⟩ := Option.map_eq_some_iff.1 h
    rw [List.cons_append, unitChars?, ih htail, Option.map_map]
    rfl
  | case3 | case4 | case6 => cases h

/-- The characters between the quotes of a string that has this text. -/
def StringBody (body text : List Char) : Prop :=
  ∃ units, Spells body units ∧ unitChars? units = some text

theorem StringBody.nil : StringBody [] [] := ⟨[], spells_nil, rfl⟩

theorem StringBody.append {body text other more : List Char} (h : StringBody body text)
    (hother : StringBody other more) : StringBody (body ++ other) (text ++ more) := by
  obtain ⟨units, hunits, htext⟩ := h
  obtain ⟨others, hothers, hmore⟩ := hother
  exact ⟨units ++ others, hunits.append hothers, by rw [unitChars?_append htext, hmore]; rfl⟩

theorem StringBody.readString {body text : List Char} (h : StringBody body text)
    (rest : List Char) :
    readString (body ++ '"' :: rest) = some (some (.ofList text), rest) := by
  obtain ⟨units, hunits, htext⟩ := h
  simp [Json.readString, hunits ('"' :: rest), readUnits, htext]

/-- Behind a character that stands for itself the body of a string goes on as another one. -/
theorem StringBody.readString_tail {c : Char} {body text : List Char} (hc : IsPlain c)
    (h : StringBody (c :: body) text) :
    ∃ tail, Json.readString (body ++ ['"']) = some (some tail, []) := by
  have hread := h.readString []
  have hunits := spells_of_isPlain hc (body ++ ['"'])
  rw [List.singleton_append] at hunits
  rw [List.cons_append, Json.readString, hunits] at hread
  cases hbody : readUnits (body ++ ['"']) with
  | none =>
    rw [hbody] at hread
    cases hread
  | some result =>
    obtain ⟨units, rest⟩ := result
    simp only [hbody, Option.map_some, Option.some.injEq, Prod.mk.injEq, List.singleton_append,
      unitChars?, Option.map_map, Option.map_eq_some_iff] at hread
    obtain ⟨⟨tail, htail, -⟩, hrest⟩ := hread
    exact ⟨.ofList tail, by simp [Json.readString, hbody, htail, hrest]⟩

theorem stringBody_of_isPlain {text : List Char} (h : ArePlain text) :
    StringBody text text := by
  induction text with
  | nil => exact .nil
  | cons c text ih =>
    obtain ⟨hc, htext⟩ := List.forall_mem_cons.1 h
    have hbody : StringBody [c] [c] := ⟨[.char c], spells_of_isPlain hc, rfl⟩
    exact hbody.append (ih htext)

theorem hexNumber?_control : ∀ n < 0x20,
    hexNumber? ['0', '0', Nat.digitChar (n / 16), Nat.digitChar (n % 16)] = some n := by
  decide

/-- An escaped character stands for the character. -/
theorem stringBody_escaped (c : Char) : StringBody (escaped c) [c] := by
  by_cases hc : IsPlain c
  · rw [escaped_of_isPlain hc]
    exact stringBody_of_isPlain (by simpa [ArePlain] using hc)
  · unfold escaped
    split
    case h_8 hquote hslash _ _ _ _ _ =>
      have hlow : c.toNat < 0x20 :=
        Nat.lt_of_not_le fun hhigh => hc ⟨hquote, hslash, hhigh⟩
      have hhigh : isHighSurrogate c.toNat = false := decide_eq_false (by omega)
      have hlone : isLowSurrogate c.toNat = false := decide_eq_false (by omega)
      rw [if_pos hlow]
      refine ⟨[.code c.toNat], spells_code (hexNumber?_control _ hlow), ?_⟩
      rw [unitChars?_code hhigh hlone, Char.ofNat_toNat]
      rfl
    all_goals exact ⟨_, spells_escape rfl, rfl⟩

/-- A string that has a text ends where its body does. -/
theorem exists_stringBody_of_readString {cs after : List Char} {text : String}
    (h : Json.readString cs = some (some text, after)) :
    ∃ body, cs = body ++ '"' :: after ∧ StringBody body text.toList := by
  obtain ⟨⟨units, rest⟩, hunits, h⟩ := Option.map_eq_some_iff.1 h
  obtain ⟨htext, rfl⟩ := Prod.mk.inj h
  obtain ⟨chars, hchars, rfl⟩ := Option.map_eq_some_iff.1 htext
  obtain ⟨body, rfl, hbody⟩ := exists_spells_of_readUnits hunits
  exact ⟨body, rfl, units, hbody, by simpa using hchars⟩

end SeriesQuery.Json
