import SeriesQuery.Proofs.Catalog.Binding
import SeriesQuery.Proofs.Result

/-!
Parts and records after edits of parameters. Whatever is edited, a part is the one that its record
stands for, and parts of one catalog are the same exactly when their records are.
-/

namespace SeriesQuery

namespace Part

variable {part edited other : Part} {edits : List (Nat × String)}

/-- Edits one after the other, each of a slot and with its value, up to the first that fails. -/
def withParams (part : Part) (edits : List (Nat × String)) : Except Error Part :=
  edits.foldlM (fun part edit => part.withParam edit.1 edit.2) part

theorem withParams_invariant {P : Part → Prop}
    (hstep : ∀ {part index value next}, P part → part.withParam index value = .ok next → P next)
    (hpart : P part) (h : part.withParams edits = .ok edited) : P edited := by
  induction edits generalizing part with
  | nil =>
    cases h
    exact hpart
  | cons edit rest ih =>
    rw [withParams, List.foldlM_cons] at h
    obtain ⟨next, hnext, hrest⟩ := bind_eq_ok_iff.1 h
    exact ih (hstep hpart hnext) hrest

theorem definition_withParam {index : Nat} {value : String}
    (h : part.withParam index value = .ok edited) : edited.definition = part.definition := by
  unfold withParam at h
  split at h <;> cases h
  rfl

theorem definition_withParams (h : part.withParams edits = .ok edited) :
    edited.definition = part.definition := by
  refine withParams_invariant (P := fun next => next.definition = part.definition) ?_ rfl h
  intro _ _ _ _ hdefinition hnext
  exact (definition_withParam hnext).trans hdefinition

theorem same_iff :
    other.same part = true ↔ other.definition = part.definition ∧ other.params = part.params := by
  simp [same]

/-- The record that a part was bound from goes neither into its text nor into a request. -/
theorem shown_of_same (h : other.same part = true) :
    other.text = part.text ∧
      ∀ inner interval, other.render inner interval = part.render inner interval := by
  obtain ⟨hdefinition, hparams⟩ := same_iff.1 h
  constructor
  · rw [text, text, hdefinition, hparams]
  · intro inner interval
    simp only [render, hdefinition, hparams]

end Part

namespace Catalog

variable {catalog : Catalog} {saved : SavedPart} {part edited other : Part}
  {edits : List (Nat × String)}

/-- The part that a record is bound to, after some edits. -/
def bindEdited (catalog : Catalog) (saved : SavedPart) (edits : List (Nat × String)) :
    Except Error Part := do
  let part ← catalog.bind saved
  part.withParams edits

theorem Owns.withParams (h : catalog.Owns part) (hedited : part.withParams edits = .ok edited) :
    catalog.Owns edited :=
  Part.withParams_invariant Owns.withParam h hedited

theorem owns_of_bindEdited (h : catalog.bindEdited saved edits = .ok part) :
    catalog.Owns part := by
  obtain ⟨bound, hbound, hedits⟩ := bind_eq_ok_iff.1 h
  have hbinds : catalog.Binds saved bound := hbound
  exact hbinds.owns.withParams hedits

/-- In a catalog a part and its record determine each other. -/
theorem Owns.same_iff (ha : catalog.Owns other) (hb : catalog.Owns part) :
    other.same part = true ↔ other.saved = part.saved := by
  constructor
  · intro h
    obtain ⟨hdefinition, hparams⟩ := Part.same_iff.1 h
    rw [Part.saved, Part.saved, hdefinition, hparams]
  · intro h
    have hother : catalog.bind other.saved = .ok other := ha.binds
    have hpart : catalog.bind part.saved = .ok part := hb.binds
    rw [h, hpart] at hother
    cases hother
    exact Part.same_iff.2 ⟨rfl, rfl⟩

/-- However its parameters are edited, a part carries the record that it gives, and this record is
bound to the part again. Parts of one catalog are the same exactly when their records are, and parts
that are the same have one text and are rendered alike. Before any edit a part gives the record that
it was bound from, with the parameters of the definition if that had none. -/
theorem bindEdited_saved_exact (h : catalog.bindEdited saved edits = .ok part) :
    part.record = part.saved ∧
      catalog.bind part.saved = .ok part ∧
      (∀ {saved' : SavedPart} {edits' : List (Nat × String)} {other : Part},
        catalog.bindEdited saved' edits' = .ok other →
          (other.same part = true ↔ other.saved = part.saved)) ∧
      (∀ other : Part, other.same part = true → other.text = part.text ∧
        ∀ inner interval, other.render inner interval = part.render inner interval) ∧
      catalog.resolve? saved = some part.definition ∧
      ∃ bound, catalog.bind saved = .ok bound ∧
        bound.saved =
          { saved with params := some (saved.params.getD part.definition.defaultParams) } := by
  have howns := owns_of_bindEdited h
  obtain ⟨bound, hbound, hedits⟩ := bind_eq_ok_iff.1 h
  have hbinds : catalog.Binds saved bound := hbound
  obtain ⟨d, hresolve, hd⟩ := binds_iff.1 hbinds
  have hdefinition : part.definition = d := by
    rw [Part.definition_withParams hedits, hd]
    rfl
  refine ⟨howns.record_eq_saved, howns.binds, ?_, fun _ => Part.shown_of_same, ?_, ?_⟩
  · intro saved' edits' other hother
    exact (owns_of_bindEdited hother).same_iff howns
  · rw [hdefinition]
    exact hresolve
  · refine ⟨bound, hbound, ?_⟩
    rw [hbinds.saved_eq_completed, completed_eq hresolve, hdefinition]

/-- A list that goes on into an optional slot, a slot taken away, and one added. -/
theorem bindEdited_fill_saved :
    let fill := Definition.function "fill"
      [{ name := "fill", type := .text }, { name := "value", type := .text, optional := true }]
      ["null"]
    let catalog := Catalog.empty.register fill
    let saved := SavedPart.clause "fill" none
    let edits := [(0, "previous, 3"), (1, ""), (1, "linear")]
    ∃ part, catalog.bindEdited saved edits = .ok part ∧ part.params = ["previous", "linear"] ∧
      part.record = part.saved ∧ catalog.bind part.saved = .ok part := by
  intro fill catalog saved edits
  have h : ∃ part, catalog.bindEdited saved edits = .ok part ∧
      part.params = ["previous", "linear"] := by
    refine ⟨_, rfl, ?_⟩
    decide +kernel
  obtain ⟨part, hpart, hparams⟩ := h
  obtain ⟨hrecord, hbind, -⟩ := bindEdited_saved_exact hpart
  exact ⟨part, hpart, hparams, hrecord, hbind⟩

end Catalog

end SeriesQuery
