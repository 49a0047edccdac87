import Mathlib.Data.List.Basic
import SeriesQuery.Proofs.Catalog.Slots

/-!
Lists with empty pieces, and lists that are too long. An empty piece takes the value in its slot
away, the next value moves up into that slot, and the pieces that follow go on behind it. So one
value that was to be replaced stays, and the pieces touch more of the old values than they are.
-/

namespace SeriesQuery

namespace Definition

variable {d : Definition} {index offset : Nat}

theorem isOptional_of_le_optionalAfter (hpos : 0 < offset) (hle : offset ≤ d.optionalAfter index) :
    d.isOptional (index + offset) := by
  obtain ⟨before, rfl⟩ : ∃ before, offset = before + 1 := ⟨offset - 1, by omega⟩
  let optional := (d.parameters.drop (index + 1)).takeWhile (·.optional)
  have hlt : before < optional.length := hle
  have hprefix : optional <+: d.parameters.drop (index + 1) := List.takeWhile_prefix _
  have hparameter : d.parameters[index + (before + 1)]? = some optional[before] := by
    have hslot : index + (before + 1) = index + 1 + before := by omega
    rw [hslot, ← List.getElem?_drop]
    exact List.prefix_iff_getElem?.1 hprefix before hlt
  have hall : optional.all (·.optional) = true := List.all_takeWhile
  rw [isOptional, hparameter]
  exact List.all_eq_true.1 hall _ (List.getElem_mem hlt)

end Definition

namespace Part

variable {d : Definition} {part : Part} {index slot : Nat} {value old : String}
  {values shown rest params front gone behind olds tail : List String}

theorem exists_part (d : Definition) (params : List String) :
    ∃ part : Part, part.definition = d ∧ part.params = params :=
  ⟨.bind d ⟨d.type, some params, .ofCategory d.category⟩, rfl, rfl⟩

theorem setSlots_append (d : Definition) (slot : Nat) (values rest params : List String) :
    setSlots d slot (values ++ rest) params =
      setSlots d (slot + values.length) rest (setSlots d slot values params) := by
  induction values generalizing slot params with
  | nil => rfl
  | cons value values ih =>
    rw [List.cons_append, setSlots, ih, setSlots, List.length_cons, Nat.add_right_comm]
    rfl

/-- Behind a slot that is not there, values go to the end and empty ones have no effect. -/
theorem setSlots_of_length_lt (hlength : params.length < slot)
    (hoptional : ∀ offset < values.length, d.isOptional (slot + offset)) :
    setSlots d slot values params = params ++ values.filter (· ≠ "") := by
  induction values generalizing slot params with
  | nil => simp [setSlots]
  | cons value values ih =>
    have hrest : ∀ offset < values.length, d.isOptional (slot + 1 + offset) := by
      intro offset hoffset
      rw [Nat.add_right_comm]
      exact hoptional (offset + 1) (Nat.succ_lt_succ hoffset)
    by_cases hvalue : value = ""
    · have hfirst : d.isOptional slot := hoptional 0 (Nat.succ_pos _)
      rw [setSlots, setSlot_of_blank hvalue hfirst,
        List.eraseIdx_of_length_le (Nat.le_of_lt hlength), ih (by omega) hrest]
      simp [hvalue]
    · rw [setSlots, setSlot_of_not_blank fun hblank => hvalue hblank.1, if_neg (by omega),
        ih (by simpa using hlength) hrest]
      simp [hvalue]

theorem eraseIdx_splice (hindex : index ≤ params.length) :
    (splice index shown params).eraseIdx (index + shown.length) =
      params.take index ++ shown ++ params.drop (index + shown.length + 1) := by
  have hlength : (params.take index ++ shown).length = index + shown.length := by simp [hindex]
  rw [splice, List.eraseIdx_append_of_length_le (Nat.le_of_eq hlength), hlength, Nat.sub_self,
    List.eraseIdx_zero, List.tail_drop]

/-- The first empty value takes away what stands in its slot. -/
theorem setSlots_of_blank (hshown : "" ∉ shown) (hoptional : d.isOptional (index + shown.length))
    (hindex : index ≤ params.length) :
    setSlots d index (shown ++ "" :: rest) params =
      setSlots d (index + shown.length + 1) rest
        (params.take index ++ shown ++ params.drop (index + shown.length + 1)) := by
  have hvalues : ∀ value ∈ shown, value ≠ "" := fun value hvalue heq => hshown (heq ▸ hvalue)
  rw [setSlots_append, setSlots_eq_splice hvalues hindex, setSlots, setSlot_of_blank rfl hoptional,
    eraseIdx_splice hindex]

/-- The values that are there in the place of as many old ones as there are values in all. -/
def cleared (index : Nat) (values params : List String) : List String :=
  params.take index ++ values.filter (· ≠ "") ++ params.drop (index + values.length)

theorem notMem_cleared (hbefore : old ∉ params.take index) (hvalues : old ∉ values)
    (hbehind : old ∉ params.drop (index + values.length)) : old ∉ cleared index values params := by
  intro h
  rw [cleared, List.mem_append, List.mem_append] at h
  obtain (h | h) | h := h
  · exact hbefore h
  · exact hvalues (List.mem_filter.1 h).1
  · exact hbehind h

section

variable (hshown : "" ∉ shown) (hfirst : shown ≠ [])
  (hcount : (shown ++ "" :: rest).length ≤ d.optionalAfter index + 1)
  (hindex : index ≤ params.length)

include hshown hfirst hcount hindex

/-- Empty values are cleared in their slots if nothing follows the first of them, or if no old value
stands behind its slot. -/
theorem setSlots_eq_cleared (h : rest = [] ∨ params.length ≤ index + shown.length + 1) :
    setSlots d index (shown ++ "" :: rest) params = cleared index (shown ++ "" :: rest) params := by
  have hpos : 0 < shown.length := List.length_pos_iff.2 hfirst
  have hslots : shown.length + (rest.length + 1) ≤ d.optionalAfter index + 1 := by
    simpa using hcount
  have hoptional : d.isOptional (index + shown.length) :=
    Definition.isOptional_of_le_optionalAfter hpos (by omega)
  have hfilter : (shown ++ "" :: rest).filter (· ≠ "") = shown ++ rest.filter (· ≠ "") := by
    have hkept : shown.filter (· ≠ "") = shown := by
      refine List.filter_eq_self.2 fun value hvalue => decide_eq_true fun heq => ?_
      exact hshown (heq ▸ hvalue)
    rw [List.filter_append, hkept, List.filter_cons_of_neg (by simp)]
  rw [setSlots_of_blank hshown hoptional hindex, cleared, hfilter]
  obtain rfl | hend := h
  · simp [setSlots, Nat.add_assoc]
  · have hrest : ∀ offset < rest.length, d.isOptional (index + shown.length + 1 + offset) := by
      intro offset hoffset
      rw [Nat.add_assoc, Nat.add_assoc]
      exact Definition.isOptional_of_le_optionalAfter (by omega) (by omega)
    have hnone : params.drop (index + shown.length + 1) = [] := List.drop_eq_nil_of_le hend
    have hbehind : params.drop (index + (shown ++ "" :: rest).length) = [] :=
      List.drop_eq_nil_of_le (by simp; omega)
    rw [hnone, hbehind, List.append_nil, List.append_nil,
      setSlots_of_length_lt (by simp [hindex]) hrest, List.append_assoc]

/-- Otherwise the old value behind that slot stays in it. -/
theorem getElem?_setSlots_of_blank (hbehind : index + shown.length + 1 < params.length) :
    (setSlots d index (shown ++ "" :: rest) params)[index + shown.length]? =
      params[index + shown.length + 1]? := by
  have hoptional : d.isOptional (index + shown.length) := by
    rw [List.length_append, List.length_cons] at hcount
    exact Definition.isOptional_of_le_optionalAfter (List.length_pos_iff.2 hfirst) (by omega)
  have hlength : (params.take index ++ shown).length = index + shown.length := by simp [hindex]
  rw [setSlots_of_blank hshown hoptional hindex]
  generalize hkept : params.take index ++ shown ++ params.drop (index + shown.length + 1) = kept
  have hslot : kept[index + shown.length]? = params[index + shown.length + 1]? := by
    rw [← hkept, List.getElem?_append_right (Nat.le_of_eq hlength), hlength, Nat.sub_self,
      List.getElem?_drop, Nat.add_zero]
  have henough : index + shown.length + 1 ≤ kept.length := by
    obtain ⟨hlt, -⟩ :=
      List.getElem?_eq_some_iff.1 (hslot.trans (List.getElem?_eq_getElem hbehind))
    exact hlt
  rw [← hslot, ← List.getElem?_take_of_lt (Nat.lt_succ_self _),
    take_setSlots (Nat.le_refl _) henough, List.getElem?_take_of_lt (Nat.lt_succ_self _)]

end

/-- Whatever values a part of the definition has, the pieces that are there take the place of as
many old values as there are pieces. -/
def ReplacesSlots (d : Definition) (index : Nat) (value : String) : Prop :=
  ∀ part : Part, part.definition = d → index ≤ part.params.length →
    ∃ edited, part.withParam index value = .ok edited ∧
      edited.params = cleared index (pieces value) part.params

section

variable (hspills : Spills d index value)
  (hcount : (pieces value).length ≤ d.optionalAfter index + 1)
  (hpieces : pieces value = shown ++ "" :: rest) (hshown : "" ∉ shown) (hfirst : shown ≠ [])

include hspills hcount hpieces hshown hfirst

theorem exists_withParam_blank (part : Part) (hd : part.definition = d)
    (hindex : index ≤ part.params.length) :
    ∃ edited, part.withParam index value = .ok edited ∧
      (rest = [] ∨ part.params.length ≤ index + shown.length + 1 →
        edited.params = cleared index (pieces value) part.params) ∧
      (index + shown.length + 1 < part.params.length →
        edited.params[index + shown.length]? = part.params[index + shown.length + 1]?) := by
  subst hd
  obtain ⟨edited, hedited, -, hparams⟩ := exists_withParam value hindex
  rw [spill_of_spills hspills, hpieces] at hparams
  rw [hpieces] at hcount ⊢
  refine ⟨edited, hedited, fun hend => ?_, fun hbehind => ?_⟩
  · rw [hparams, setSlots_eq_cleared hshown hfirst hcount hindex hend]
  · rw [hparams, getElem?_setSlots_of_blank hshown hfirst hcount hindex hbehind]

theorem rest_eq_nil_of_replacesSlots (h : ReplacesSlots d index value) : rest = [] := by
  by_contra hrest
  have hpos : 0 < rest.length := List.length_pos_iff.2 hrest
  -- The value behind the slot has a comma, which tells it from all pieces.
  obtain ⟨part, hd, hparams⟩ :=
    exists_part d (List.replicate (index + shown.length + 1) "" ++ [","])
  have hlength : part.params.length = index + shown.length + 2 := by simp [hparams]
  have hindex : index ≤ part.params.length := by omega
  obtain ⟨edited, hedited, -, hstays⟩ :=
    exists_withParam_blank hspills hcount hpieces hshown hfirst part hd hindex
  obtain ⟨edited', hedited', hcleared⟩ := h part hd hindex
  cases hedited.symm.trans hedited'
  have hcomma : "," ∈ cleared index (pieces value) part.params := by
    rw [← hcleared]
    refine List.mem_of_getElem? ((hstays (by omega)).trans ?_)
    simp [hparams]
  refine notMem_cleared ?_ ?_ ?_ hcomma
  · rw [hparams, List.take_append_of_le_length (by simp; omega)]
    intro hbefore
    have hempty : "," = "" := List.eq_of_mem_replicate (List.mem_of_mem_take hbefore)
    simp at hempty
  · exact fun hpiece => not_mem_of_mem_pieces hpiece (by decide)
  · rw [hpieces, List.drop_eq_nil_of_le (by simp; omega)]
    exact List.not_mem_nil

/-- A list with an empty piece, not in front, replaces its slots for all parts of the definition
exactly if the first empty piece is the last piece. For one part it also does if there is no old
value behind the slot of that piece; else that value moves into the slot and stays, even though its
own slot is one of those that the list is for. -/
theorem replacesSlots_iff :
    (ReplacesSlots d index value ↔ rest = []) ∧
    ∀ part : Part, part.definition = d → index ≤ part.params.length →
      ∃ edited, part.withParam index value = .ok edited ∧
        (rest = [] ∨ part.params.length ≤ index + shown.length + 1 →
          edited.params = cleared index (pieces value) part.params) ∧
        (index + shown.length + 1 < part.params.length →
          edited.params[index + shown.length]? = part.params[index + shown.length + 1]?) := by
  have hedit := exists_withParam_blank hspills hcount hpieces hshown hfirst
  refine ⟨⟨rest_eq_nil_of_replacesSlots hspills hcount hpieces hshown hfirst, fun hlast => ?_⟩,
    hedit⟩
  intro part hd hindex
  obtain ⟨edited, hedited, hcleared, -⟩ := hedit part hd hindex
  exact ⟨edited, hedited, hcleared (.inl hlast)⟩

end

theorem replacesSlots_last :
    let d := Definition.function "f"
      [{ name := "p", type := .text }, { name := "q", type := .text, optional := true },
        { name := "r", type := .text, optional := true }] []
    ReplacesSlots d 0 "x, y, " ∧ ¬ ReplacesSlots d 0 "x, , z" := by
  intro d
  constructor
  · have hpieces : pieces "x, y, " = ["x", "y"] ++ "" :: [] := by decide
    have hspills : Spills d 0 "x, y, " := ⟨by decide, by decide⟩
    exact (replacesSlots_iff hspills (by decide) hpieces (by decide) (by decide)).1.2 rfl
  · have hpieces : pieces "x, , z" = ["x"] ++ "" :: ["z"] := by decide
    have hspills : Spills d 0 "x, , z" := ⟨by decide, by decide⟩
    obtain ⟨hiff, -⟩ := replacesSlots_iff hspills (by decide) hpieces (by decide) (by decide)
    exact fun h => absurd (hiff.1 h) (by decide)

/-- The old value of the last slot moves up and stays, though the last piece is for its slot. -/
theorem withParam_blank_moves :
    let d := Definition.function "f"
      [{ name := "p", type := .text }, { name := "q", type := .text, optional := true },
        { name := "r", type := .text, optional := true }] []
    let part := bind d ⟨"f", some ["a", "b", "c"], .ofCategory none⟩
    (part.withParam 0 "x,,z").toOption.map (·.params) = some ["x", "c", "z"] ∧
    cleared 0 (pieces "x,,z") part.params = ["x", "z"] := by
  decide

/-- An empty value for a parameter that may be left out. -/
def Clears (d : Definition) (slot : Nat) (value : String) : Prop :=
  value = "" ∧ d.isOptional slot

instance : Decidable (Clears d slot value) :=
  inferInstanceAs (Decidable (_ ∧ _))

theorem setSlot_of_clears (h : Clears d slot value) (hfront : front.length = slot) :
    setSlot d slot value (front ++ old :: behind) = front ++ behind := by
  rw [setSlot_of_blank h.1 h.2, List.eraseIdx_append_of_length_le (Nat.le_of_eq hfront), hfront,
    Nat.sub_self, List.eraseIdx_cons_zero]

theorem setSlot_of_not_clears (h : ¬ Clears d slot value) (hfront : front.length = slot) :
    setSlot d slot value (front ++ old :: behind) = front ++ value :: behind := by
  rw [setSlot_of_not_blank h, if_pos (by simp [← hfront]),
    List.set_append_right _ _ (Nat.le_of_eq hfront), hfront, Nat.sub_self, List.set_cons_zero]

/-- How many old values the values touch that go into the slots from this one on: one for each of
them, and one more for each that is cleared in front of another. -/
def reach (d : Definition) (slot : Nat) (values : List String) : Nat :=
  values.length + (values.dropLast.zipIdx slot).countP fun (value, slot) => Clears d slot value

theorem reach_cons_cons (d : Definition) (slot : Nat) (value next : String)
    (rest : List String) :
    reach d slot (value :: next :: rest) =
      (if Clears d slot value then 2 else 1) + reach d (slot + 1) (next :: rest) := by
  simp only [reach, List.dropLast_cons_cons, List.zipIdx_cons, List.countP_cons, List.length_cons,
    decide_eq_true_eq]
  split <;> omega

theorem reach_pos (d : Definition) (slot : Nat) (value : String) (rest : List String) :
    0 < reach d slot (value :: rest) := by
  rw [reach, List.length_cons]
  omega

theorem exists_setSlot_next (hfront : front.length = slot)
    (hgone : gone.length = if Clears d slot value then 2 else 1) :
    ∃ next, next.length = slot + 1 ∧ next ⊆ front ++ gone ++ [value] ∧
      ∀ behind, setSlot d slot value (front ++ gone ++ behind) = next ++ behind := by
  by_cases hclears : Clears d slot value
  · rw [if_pos hclears] at hgone
    obtain ⟨old, moved, rfl⟩ := List.length_eq_two.1 hgone
    refine ⟨front ++ [moved], by simp [hfront], by simp, fun behind => ?_⟩
    rw [List.append_assoc front, List.cons_append, setSlot_of_clears hclears hfront,
      List.append_assoc]
  · rw [if_neg hclears] at hgone
    obtain ⟨old, rfl⟩ := List.length_eq_one_iff.1 hgone
    refine ⟨front ++ [value], by simp [hfront], by simp, fun behind => ?_⟩
    rw [List.append_assoc front, List.cons_append, setSlot_of_not_clears hclears hfront,
      List.append_assoc]
    rfl

/-- The last of the old values that are touched is lost, and those behind it stay as they are. -/
theorem exists_setSlots (hfront : front.length = slot)
    (hreach : reach d slot values = olds.length + 1) :
    ∃ kept, kept ⊆ front ++ olds ++ values ∧
      ∀ old tail, setSlots d slot values (front ++ olds ++ old :: tail) = kept ++ tail := by
  induction values generalizing slot front olds with
  | nil => cases hreach
  | cons value rest ih =>
    obtain _ | ⟨next, rest⟩ := rest
    · obtain rfl : olds = [] := by simpa [reach] using hreach
      rw [List.append_nil]
      by_cases hclears : Clears d slot value
      · refine ⟨front, by simp, fun old tail => ?_⟩
        rw [setSlots, setSlots, setSlot_of_clears hclears hfront]
      · refine ⟨front ++ [value], by simp, fun old tail => ?_⟩
        rw [setSlots, setSlots, setSlot_of_not_clears hclears hfront, List.append_assoc,
          List.singleton_append]
    · have hpos := reach_pos d (slot + 1) next rest
      rw [reach_cons_cons] at hreach
      obtain ⟨gone, behind, rfl, hgone⟩ : ∃ gone behind, olds = gone ++ behind ∧
          gone.length = if Clears d slot value then 2 else 1 := by
        refine ⟨_, _, (List.take_append_drop _ olds).symm, List.length_take_of_le ?_⟩
        omega
      obtain ⟨first, hlength, hfirst, hnext⟩ := exists_setSlot_next hfront hgone
      have hbehind : reach d (slot + 1) (next :: rest) = behind.length + 1 := by
        rw [List.length_append, hgone] at hreach
        omega
      obtain ⟨kept, hkept, htail⟩ := ih hlength hbehind
      refine ⟨kept, fun v hv => ?_, fun old tail => ?_⟩
      · have hmem := hkept hv
        grind
      · rw [setSlots, ← List.append_assoc front, List.append_assoc (front ++ gone), hnext,
          ← List.append_assoc, htail]

theorem exists_reach_spill (d : Definition) (index : Nat) (value : String) :
    ∃ touched, reach d index (spill d index value) = touched + 1 := by
  have hvalues : spill d index value ≠ [] := by
    unfold spill
    split
    · simp [List.splitOn_ne_nil]
    · exact List.cons_ne_nil _ _
  obtain ⟨first, others, hfirst⟩ := List.exists_cons_of_ne_nil hvalues
  rw [hfirst]
  exact Nat.exists_eq_add_one.2 (reach_pos d index first others)

/-- Whatever values a part of the definition has, those behind the slots that may be left out
directly behind this one are still its last. -/
def KeepsBehind (d : Definition) (index : Nat) (value : String) : Prop :=
  ∀ part : Part, part.definition = d → index ≤ part.params.length →
    ∃ edited, part.withParam index value = .ok edited ∧
      part.params.drop (index + d.optionalAfter index + 1) <:+ edited.params

theorem keepsBehind_of_reach_le
    (h : reach d index (spill d index value) ≤ d.optionalAfter index + 1) :
    KeepsBehind d index value := by
  rintro part rfl hindex
  obtain ⟨edited, hedited, -, hparams⟩ := exists_withParam value hindex
  obtain ⟨touched, hreach⟩ := exists_reach_spill part.definition index value
  refine ⟨edited, hedited, ?_⟩
  rw [hreach] at h
  by_cases hend : index + touched < part.params.length
  · have hlength : ((part.params.drop index).take touched).length = touched := by
      rw [List.length_take, List.length_drop]
      omega
    obtain ⟨kept, -, hkept⟩ :=
      exists_setSlots (List.length_take_of_le hindex) (hreach.trans (by rw [hlength]))
    have hsplit : part.params.take index ++ (part.params.drop index).take touched ++
        part.params[index + touched] :: part.params.drop (index + touched + 1) = part.params := by
      rw [← List.take_add, List.getElem_cons_drop, List.take_append_drop]
    have hbehind := hkept part.params[index + touched] (part.params.drop (index + touched + 1))
    rw [hsplit, ← hparams] at hbehind
    have hmore : index + part.definition.optionalAfter index + 1 =
        index + touched + 1 + (part.definition.optionalAfter index - touched) := by omega
    rw [hbehind, hmore, ← List.drop_drop]
    exact List.suffix_append_of_suffix (List.drop_suffix _ _)
  · rw [List.drop_eq_nil_of_le (by omega)]
    exact List.nil_suffix

/-- What stands behind the slots that may be left out is kept exactly if the values touch no more
than these slots and their own. -/
theorem keepsBehind_iff (d : Definition) (index : Nat) (value : String) :
    KeepsBehind d index value ↔
      reach d index (spill d index value) ≤ d.optionalAfter index + 1 := by
  refine ⟨fun h => ?_, keepsBehind_of_reach_le⟩
  obtain ⟨touched, hreach⟩ := exists_reach_spill d index value
  by_contra hmore
  have hspills : Spills d index value := by
    by_contra hsingle
    rw [spill_of_not_spills hsingle] at hmore
    exact hmore (by simp [reach])
  rw [hreach] at hmore
  rw [spill_of_spills hspills] at hreach
  obtain ⟨part, rfl, hpart⟩ :=
    exists_part d (List.replicate index "" ++ List.replicate touched "" ++ [","])
  have hindex : index ≤ part.params.length := by
    simp [hpart]
    omega
  obtain ⟨edited, hedited, -, hparams⟩ := exists_withParam value hindex
  obtain ⟨edited', hedited', hsuffix⟩ := h part rfl hindex
  cases hedited.symm.trans hedited'
  have hfront : (List.replicate index "").length = index := List.length_replicate
  have holds : reach part.definition index (pieces value) =
      (List.replicate touched "").length + 1 := by
    rw [List.length_replicate, hreach]
  obtain ⟨kept, hkept, htail⟩ := exists_setSlots hfront holds
  rw [spill_of_spills hspills, hpart, htail, List.append_nil] at hparams
  have hcomma : "," ∈ edited.params := by
    refine hsuffix.mem ?_
    rw [hpart, List.drop_append_of_le_length (by simp; omega)]
    simp
  rw [hparams] at hcomma
  rcases List.mem_append.1 (hkept hcomma) with hold | hpiece
  · simp at hold
  · exact not_mem_of_mem_pieces hpiece (by decide)

/-- One parameter that may be left out is enough for a list to reach the one behind it. -/
theorem withParam_overwrites :
    let d := Definition.function "f"
      [{ name := "p", type := .text }, { name := "q", type := .text, optional := true },
        { name := "r", type := .text }] []
    let part := bind d ⟨"f", some ["a", "b", "c"], .ofCategory none⟩
    (part.withParam 0 "x,y,z").toOption.map (·.params) = some ["x", "y", "z"] ∧
    part.params.drop (0 + d.optionalAfter 0 + 1) = ["c"] ∧ ¬ ["c"] <:+ ["x", "y", "z"] := by
  decide

end Part

end SeriesQuery
