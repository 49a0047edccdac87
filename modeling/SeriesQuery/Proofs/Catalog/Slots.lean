import Mathlib.Data.List.InsertIdx
import SeriesQuery.Catalog.Part

/-!
Edits of a parameter, slot by slot. A single value takes the slot that is edited and no other, and
the pieces of a list take the slots from that one on, as long as none of them is empty.
-/

namespace SeriesQuery

theorem not_mem_of_mem_splitOn {c : Char} {cs piece : List Char} (h : piece ∈ cs.splitOn c) :
    c ∉ piece := by
  induction cs generalizing piece with
  | nil =>
    rw [List.splitOn_nil, List.mem_singleton] at h
    simp [h]
  | cons head rest ih =>
    rw [List.splitOn_cons_eq_if_modifyHead] at h
    split at h
    · rcases List.mem_cons.1 h with rfl | h
      · exact List.not_mem_nil
      · exact ih h
    · next hhead =>
      rcases hrest : rest.splitOn c with _ | ⟨first, others⟩
      · exact absurd hrest (List.splitOn_ne_nil c rest)
      · rw [hrest] at h ih
        rcases List.mem_cons.1 h with rfl | h
        · have hne : c ≠ head := fun heq => hhead (beq_iff_eq.2 heq.symm)
          exact List.not_mem_cons_of_ne_of_not_mem hne (ih List.mem_cons_self)
        · exact ih (List.mem_cons_of_mem _ h)

theorem Text.mem_of_mem_trimmed {c : Char} {cs : List Char} (h : c ∈ trimmed cs) : c ∈ cs := by
  unfold trimmed at h
  rw [List.mem_reverse] at h
  have hback := (List.dropWhile_suffix _).mem h
  rw [List.mem_reverse] at hback
  exact (List.dropWhile_suffix _).mem hback

namespace Definition

variable {d : Definition} {index : Nat}

/-- How many parameters in a row may be left out directly behind this one. -/
def optionalAfter (d : Definition) (index : Nat) : Nat :=
  ((d.parameters.drop (index + 1)).takeWhile (·.optional)).length

theorem optionalAfter_pos_iff : 0 < d.optionalAfter index ↔ d.isOptional (index + 1) := by
  unfold optionalAfter isOptional
  rw [← List.head?_drop]
  rcases d.parameters.drop (index + 1) with _ | ⟨p, rest⟩
  · simp
  · cases hp : p.optional <;> simp [hp]

end Definition

namespace Part

variable {d : Definition} {part : Part} {index slot : Nat} {value : String}
  {values params : List String}

/-- The pieces of a list between its commas, without the white space around them. -/
def pieces (value : String) : List String :=
  (value.toList.splitOn ',').map fun piece => .ofList (Text.trimmed piece)

/-- A list that is taken apart: the slot behind it is one that may be left out. -/
def Spills (d : Definition) (index : Nat) (value : String) : Prop :=
  ',' ∈ value.toList ∧ 0 < d.optionalAfter index

theorem spills_iff : Spills d index value ↔ ',' ∈ value.toList ∧ d.isOptional (index + 1) := by
  rw [Spills, Definition.optionalAfter_pos_iff]

theorem spill_of_spills (h : Spills d index value) : spill d index value = pieces value := by
  rw [spill, if_pos (by simpa using spills_iff.1 h), pieces]

theorem spill_of_not_spills (h : ¬ Spills d index value) : spill d index value = [value] := by
  rw [spill, if_neg (by simpa using mt spills_iff.2 h)]

/-- Values in the place of those that stood in the slots from this one on. -/
def splice (index : Nat) (values params : List String) : List String :=
  params.take index ++ values ++ params.drop (index + values.length)

theorem splice_nil (index : Nat) (params : List String) : splice index [] params = params := by
  simp [splice]

theorem splice_singleton (hindex : index ≤ params.length) :
    splice index [value] params =
      if index < params.length then params.set index value else params ++ [value] := by
  unfold splice
  split
  · next hlt => simp [List.set_eq_take_append_cons_drop, hlt]
  · next hge =>
    obtain rfl : index = params.length := by omega
    simp

theorem splice_cons (hindex : index ≤ params.length) (value : String) (values : List String) :
    splice (index + 1) values (splice index [value] params) =
      splice index (value :: values) params := by
  have hlength : (params.take index ++ [value]).length = index + 1 := by simp [hindex]
  have htake : (splice index [value] params).take (index + 1) = params.take index ++ [value] :=
    List.take_left' hlength
  have hdrop : (splice index [value] params).drop (index + 1 + values.length) =
      params.drop (index + 1 + values.length) := by
    rw [← List.drop_drop, splice, List.drop_left' hlength, List.drop_drop, List.length_singleton]
  have hend : index + 1 + values.length = index + (values.length + 1) := by omega
  rw [splice, htake, hdrop, splice, List.length_cons, hend, List.append_assoc (params.take index),
    List.singleton_append]

theorem setSlot_of_blank (hvalue : value = "") (hoptional : d.isOptional index) :
    setSlot d index value params = params.eraseIdx index := by
  simp [setSlot, hvalue, hoptional]

theorem setSlot_of_not_blank (h : ¬ (value = "" ∧ d.isOptional index)) :
    setSlot d index value params =
      if index < params.length then params.set index value else params ++ [value] := by
  have hkept : ¬ (value.isEmpty && d.isOptional index) := by simpa using h
  rw [setSlot, if_neg hkept]

theorem take_setSlot (hslot : index ≤ slot) (hindex : index ≤ params.length) :
    (setSlot d slot value params).take index = params.take index := by
  unfold setSlot
  split
  · rw [List.take_eraseIdx_eq_take_of_le _ _ _ hslot]
  · split
    · rw [List.take_set_of_le hslot]
    · rw [List.take_append_of_le_length hindex]

theorem take_setSlots (hslot : index ≤ slot) (hindex : index ≤ params.length) :
    (setSlots d slot values params).take index = params.take index := by
  induction values generalizing slot params with
  | nil => rfl
  | cons value rest ih =>
    have htake : (setSlot d slot value params).take index = params.take index :=
      take_setSlot hslot hindex
    have hlength : index ≤ (setSlot d slot value params).length := by
      rw [← List.length_take_of_le hindex, ← htake]
      exact List.length_take_le' _ _
    rw [setSlots, ih (Nat.le_succ_of_le hslot) hlength, htake]

/-- Values that are all there take as many slots as they are. -/
theorem setSlots_eq_splice (hvalues : ∀ value ∈ values, value ≠ "")
    (hindex : index ≤ params.length) :
    setSlots d index values params = splice index values params := by
  induction values generalizing index params with
  | nil => exact (splice_nil index params).symm
  | cons value rest ih =>
    rw [List.forall_mem_cons] at hvalues
    have hlength : index + 1 ≤ (splice index [value] params).length := by
      simp only [splice, List.length_append, List.length_take, List.length_drop,
        List.length_singleton]
      omega
    rw [setSlots, setSlot_of_not_blank fun hblank => hvalues.1 hblank.1, ← splice_singleton hindex,
      ih hvalues.2 hlength, splice_cons hindex]

theorem exists_withParam (value : String) (hindex : index ≤ part.params.length) :
    ∃ edited, part.withParam index value = .ok edited ∧ edited.definition = part.definition ∧
      edited.params =
        setSlots part.definition index (spill part.definition index value) part.params :=
  ⟨_, if_neg (Nat.not_lt.2 hindex), rfl, rfl⟩

/-- A value that is there and no list takes one slot. -/
theorem exists_withParam_single (hindex : index ≤ part.params.length) (hvalue : value ≠ "")
    (hcomma : ',' ∉ value.toList) :
    ∃ edited, part.withParam index value = .ok edited ∧ edited.definition = part.definition ∧
      edited.params = splice index [value] part.params := by
  obtain ⟨edited, hedited, hdefinition, hparams⟩ := exists_withParam value hindex
  refine ⟨edited, hedited, hdefinition, ?_⟩
  rw [hparams, spill_of_not_spills fun hspills => hcomma hspills.1,
    setSlots_eq_splice (by simpa using hvalue) hindex]

/-- A piece is no list itself. -/
theorem not_mem_of_mem_pieces {piece : String} (h : piece ∈ pieces value) :
    ',' ∉ piece.toList := by
  obtain ⟨cs, hcs, rfl⟩ := List.mem_map.1 h
  rw [String.toList_ofList]
  exact fun hcomma => not_mem_of_mem_splitOn hcs (Text.mem_of_mem_trimmed hcomma)

def removeAt? (index : Nat) (params : List String) : Option (List String) :=
  if index < params.length then some (params.eraseIdx index) else none

def replaceAt? (index : Nat) (value : String) (params : List String) : Option (List String) :=
  if index < params.length then some (params.set index value) else none

/-- An edit in which each piece of a list is an edit again, in its own slot. It has no result when
it goes deeper than it may, or when a slot that it takes away or writes to is out of range. -/
def edit? (d : Definition) : Nat → Nat → String → List String → Option (List String)
  | 0, _, _, _ => none
  | depth + 1, index, value, params =>
    if ',' ∈ value.toList ∧ d.isOptional (index + 1) then
      ((pieces value).zipIdx index).foldlM
        (fun params piece => edit? d depth piece.2 piece.1 params) params
    else if value.isEmpty ∧ d.isOptional index then
      if index < params.length then removeAt? index params else some params
    else if index < params.length then replaceAt? index value params
    else some (params ++ [value])

theorem edit?_of_not_spills {depth : Nat} (h : ¬ Spills d index value) :
    edit? d (depth + 1) index value params = some (setSlot d index value params) := by
  rw [edit?, if_neg (mt spills_iff.2 h)]
  by_cases hblank : value = "" ∧ d.isOptional index
  · rw [if_pos (by simpa using hblank), setSlot_of_blank hblank.1 hblank.2]
    split
    · next hin => rw [removeAt?, if_pos hin]
    · next hout => rw [List.eraseIdx_of_length_le (Nat.le_of_not_lt hout)]
  · rw [if_neg (by simpa using hblank), setSlot_of_not_blank hblank]
    split
    · next hin => rw [replaceAt?, if_pos hin]
    · rfl

theorem foldlM_edit? {depth : Nat} (h : ∀ value ∈ values, ',' ∉ value.toList) :
    (values.zipIdx index).foldlM
        (fun params piece => edit? d (depth + 1) piece.2 piece.1 params) params =
      some (setSlots d index values params) := by
  induction values generalizing index params with
  | nil => rfl
  | cons value rest ih =>
    rw [List.forall_mem_cons] at h
    rw [List.zipIdx_cons, List.foldlM_cons, edit?_of_not_spills fun hspills => h.1 hspills.1]
    exact ih h.2

/-- An edit finds every slot that it takes, and the pieces of a list are not taken apart again. -/
theorem edit?_eq (d : Definition) (depth index : Nat) (value : String) (params : List String) :
    edit? d (depth + 2) index value params =
      some (setSlots d index (spill d index value) params) := by
  by_cases hspills : Spills d index value
  · rw [spill_of_spills hspills, edit?, if_pos (spills_iff.1 hspills)]
    exact foldlM_edit? fun piece => not_mem_of_mem_pieces
  · rw [spill_of_not_spills hspills, edit?_of_not_spills hspills]
    rfl

/-- What an edit of a slot leaves of a part. -/
structure Edited (part : Part) (index : Nat) (value : String) (edited : Part) : Prop where
  definition_eq : edited.definition = part.definition
  record_eq : edited.record = { part.record with params := some edited.params }
  /-- Two edits inside one another are enough, and no slot of theirs is out of range. -/
  reached : ∀ depth,
    edit? part.definition (depth + 2) index value part.params = some edited.params
  before_eq : edited.params.take index = part.params.take index
  /-- An empty value takes a slot away that may be left out, and does nothing without one. -/
  cleared : value = "" → part.definition.isOptional index →
    edited.params =
      if index < part.params.length then part.params.eraseIdx index else part.params
  stored : ¬ Spills part.definition index value →
    ¬ (value = "" ∧ part.definition.isOptional index) →
    edited.params =
      if index < part.params.length then part.params.set index value else part.params ++ [value]
  /-- Pieces take the slots of as many old values, wherever these end. -/
  spilled : Spills part.definition index value → (∀ piece ∈ pieces value, piece ≠ "") →
    edited.params = splice index (pieces value) part.params

theorem edited_setSlots (hindex : index ≤ part.params.length) :
    let params := setSlots part.definition index (spill part.definition index value) part.params
    Edited part index value
      { part with params, record := { part.record with params := some params } } where
  definition_eq := rfl
  record_eq := rfl
  reached depth := edit?_eq part.definition depth index value part.params
  before_eq := take_setSlots (Nat.le_refl index) hindex
  cleared hvalue hoptional := by
    have hsingle : ¬ Spills part.definition index value := fun hspills => by
      simpa [hvalue] using hspills.1
    simp only [spill_of_not_spills hsingle, setSlots, setSlot_of_blank hvalue hoptional]
    split
    · rfl
    · next hout => exact List.eraseIdx_of_length_le (Nat.le_of_not_lt hout)
  stored hsingle hvalue := by
    rw [spill_of_not_spills hsingle, setSlots, setSlots, setSlot_of_not_blank hvalue]
  spilled hspills hpieces := by
    rw [spill_of_spills hspills, setSlots_eq_splice hpieces hindex]

/-- An edit of a slot fails when there is a gap in front of it, and only then. Otherwise the slots
in front stay as they are, a single value takes its own slot, and a list of pieces that are all
there takes one slot for each. -/
theorem withParam_slots (part : Part) (index : Nat) (value : String) :
    (part.params.length < index →
      part.withParam index value =
        .error (.invalidIndex .param index part.params.length)) ∧
    (index ≤ part.params.length →
      ∃ edited, part.withParam index value = .ok edited ∧ Edited part index value edited) := by
  constructor
  · intro hgap
    rw [withParam, if_pos hgap]
  · intro hindex
    refine ⟨_, ?_, edited_setSlots hindex⟩
    rw [withParam, if_neg (Nat.not_lt.2 hindex)]

/-- A list goes on into the slot of an optional parameter, but not behind one that is not there. -/
theorem withParam_fill_slots :
    let fill := Definition.function "fill"
      [{ name := "fill", type := .text }, { name := "value", type := .text, optional := true }]
      ["null"]
    let part := bind fill (.clause "fill" none)
    (∃ edited, part.withParam 0 "previous, 3" = .ok edited ∧
      edited.params = ["previous", "3"]) ∧
    part.withParam 2 "3" = .error (.invalidIndex .param 2 1) := by
  intro fill part
  refine ⟨?_, (withParam_slots part 2 "3").1 (by decide)⟩
  obtain ⟨edited, hedited, h⟩ := (withParam_slots part 0 "previous, 3").2 (by decide)
  exact ⟨edited, hedited, (h.spilled ⟨by decide, by decide⟩ (by decide)).trans (by decide)⟩

end Part

end SeriesQuery
