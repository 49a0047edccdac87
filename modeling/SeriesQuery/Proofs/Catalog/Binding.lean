import Mathlib.Data.List.Forall2
import SeriesQuery.Catalog.Basic

/-!
Records and the parts bound to them. A part gives back the record that it was bound from, completed
by the parameters of its definition, and that record gives the same part again.
-/

namespace SeriesQuery

namespace Catalog

variable {catalog : Catalog} {saved : SavedPart} {part edited : Part} {d : Definition}

theorem describes_of_get? {category : Option Category} {type : String}
    (h : catalog.get? category type = some d) : d.category = category ∧ d.type = type :=
  catalog.keyed h

theorem key_of_resolve? (h : catalog.resolve? saved = some d) :
    saved.type = d.type ∧ saved.scope = .ofCategory d.category := by
  rcases saved with ⟨type, params, _ | category | ⟨label, unknown⟩⟩
  · obtain ⟨hcategory, htype⟩ := describes_of_get? h
    exact ⟨htype.symm, by rw [hcategory]; rfl⟩
  · obtain ⟨hcategory, htype⟩ := describes_of_get? h
    exact ⟨htype.symm, by rw [hcategory]; rfl⟩
  · cases h

theorem resolve?_eq_get? {category : Option Category} (h : saved.scope = .ofCategory category) :
    catalog.resolve? saved = catalog.get? category saved.type := by
  unfold resolve?
  rw [h]
  cases category <;> rfl

/-- A record stands for a part of this catalog. -/
def Binds (catalog : Catalog) (saved : SavedPart) (part : Part) : Prop :=
  catalog.bind saved = .ok part

theorem binds_iff :
    catalog.Binds saved part ↔ ∃ d, catalog.resolve? saved = some d ∧ part = .bind d saved := by
  unfold Binds bind
  cases h : catalog.resolve? saved <;> simp [eq_comm]

theorem Binds.key (h : catalog.Binds saved part) :
    saved.type = part.definition.type ∧ saved.scope = .ofCategory part.definition.category := by
  obtain ⟨d, hd, rfl⟩ := binds_iff.1 h
  exact key_of_resolve? hd

/-- A record with the parameters of its definition where it has none of its own. -/
def completed (catalog : Catalog) (saved : SavedPart) : SavedPart :=
  { saved with params := saved.params.or ((catalog.resolve? saved).map Definition.defaultParams) }

theorem completed_eq (h : catalog.resolve? saved = some d) :
    catalog.completed saved =
      { saved with params := some (saved.params.getD d.defaultParams) } := by
  unfold completed
  rw [h]
  cases saved.params <;> rfl

theorem Binds.record_eq_saved (h : catalog.Binds saved part) : part.record = part.saved := by
  obtain ⟨d, hd, rfl⟩ := binds_iff.1 h
  obtain ⟨htype, hscope⟩ := key_of_resolve? hd
  simp only [Part.bind, Part.saved, htype, hscope]

theorem Binds.saved_eq_completed (h : catalog.Binds saved part) :
    part.saved = catalog.completed saved := by
  rw [← h.record_eq_saved]
  obtain ⟨d, hd, rfl⟩ := binds_iff.1 h
  simp only [Part.bind, completed, hd]
  cases saved.params <;> rfl

/-- A part belongs to a catalog: its definition is the one registered under its key, and its record
is the one that its definition and its parameters give. -/
structure Owns (catalog : Catalog) (part : Part) : Prop where
  registered :
    catalog.get? part.definition.category part.definition.type = some part.definition
  record_eq_saved : part.record = part.saved

theorem Binds.owns (h : catalog.Binds saved part) : catalog.Owns part := by
  refine ⟨?_, h.record_eq_saved⟩
  obtain ⟨d, hd, rfl⟩ := binds_iff.1 h
  obtain ⟨htype, hscope⟩ := key_of_resolve? hd
  rw [resolve?_eq_get? hscope, htype] at hd
  exact hd

theorem Owns.binds (h : catalog.Owns part) : catalog.Binds part.saved part := by
  refine binds_iff.2 ⟨part.definition, ?_, ?_⟩
  · have hscope : part.saved.scope = .ofCategory part.definition.category := rfl
    rw [resolve?_eq_get? hscope]
    exact h.registered
  · rcases part with ⟨d, params, record⟩
    have hrecord : record = _ := h.record_eq_saved
    rw [hrecord]
    rfl

/-- An edit of a parameter leaves a part in its catalog. -/
theorem Owns.withParam {index : Nat} {value : String} (h : catalog.Owns part)
    (hedited : part.withParam index value = .ok edited) : catalog.Owns edited := by
  unfold Part.withParam at hedited
  split at hedited <;> cases hedited
  refine ⟨h.registered, ?_⟩
  simp only [h.record_eq_saved]
  rfl

end Catalog

end SeriesQuery
