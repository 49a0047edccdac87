import SeriesQuery.Proofs.Catalog.Binding
import SeriesQuery.Proofs.Query.Outcome
import SeriesQuery.Proofs.Result

/-!
Validation and construction. Both go through all records of a target and stop at the first that has
no definition; they differ in the order of the records only.
-/

namespace SeriesQuery

namespace Catalog

variable {catalog : Catalog} {saved : SavedPart} {parts : List SavedPart} {e : Error}

/-- The record belongs to no category or to a known one, and its type is registered there. -/
def Knows (catalog : Catalog) (saved : SavedPart) : Prop :=
  ∃ category, saved.scope = .ofCategory category ∧ catalog.contains category saved.type

theorem knows_iff : catalog.Knows saved ↔ ∃ d, catalog.resolve? saved = some d := by
  constructor
  · rintro ⟨category, hscope, hregistered⟩
    rw [resolve?_eq_get? hscope]
    exact Option.isSome_iff_exists.1 hregistered
  · rintro ⟨d, hd⟩
    obtain ⟨-, hscope⟩ := key_of_resolve? hd
    rw [resolve?_eq_get? hscope] at hd
    exact ⟨d.category, hscope, Option.isSome_iff_exists.2 ⟨d, hd⟩⟩

/-- A record is looked up, and what it is bound to is not looked at. -/
def check (catalog : Catalog) (saved : SavedPart) : Except Error Unit :=
  (catalog.bind saved).map fun _ => ()

theorem check_eq_ok_iff : catalog.check saved = .ok () ↔ catalog.Knows saved := by
  rw [knows_iff, check, bind]
  cases catalog.resolve? saved <;> simp [Except.map]

theorem check_eq_error_iff :
    catalog.check saved = .error e ↔
      ¬ catalog.Knows saved ∧ e = .partNotFound saved.type saved.label? := by
  rw [knows_iff, check, bind]
  cases catalog.resolve? saved <;> simp [Except.map, eq_comm]

/-- The first of the records that the catalog does not know. -/
def FirstUnknown (catalog : Catalog) (parts : List SavedPart) (saved : SavedPart) : Prop :=
  ∃ before after, parts = before ++ saved :: after ∧
    (∀ other ∈ before, catalog.Knows other) ∧ ¬ catalog.Knows saved

theorem forM_check_eq_ok_iff :
    forM parts catalog.check = .ok () ↔ ∀ saved ∈ parts, catalog.Knows saved := by
  simp only [forM_eq_ok_iff, check_eq_ok_iff]

theorem forM_check_eq_error_iff :
    forM parts catalog.check = .error e ↔
      ∃ saved, catalog.FirstUnknown parts saved ∧ e = .partNotFound saved.type saved.label? := by
  rw [forM_eq_error_iff]
  simp only [check_eq_ok_iff, check_eq_error_iff, FirstUnknown]
  constructor
  · rintro ⟨before, saved, after, hparts, hbefore, hunknown, he⟩
    exact ⟨saved, ⟨before, after, hparts, hbefore, hunknown⟩, he⟩
  · rintro ⟨saved, ⟨before, after, hparts, hbefore, hunknown⟩, he⟩
    exact ⟨before, saved, after, hparts, hbefore, hunknown, he⟩

end Catalog

theorem Projection.map_bind (catalog : Catalog) (target : Target) :
    (Projection.bind catalog target).map (fun _ => ()) =
      forM (target.select.flatten ++ target.groupBy) catalog.check := by
  let bindAll (parts : List SavedPart) : Except Error (List Part) := parts.mapM catalog.bind
  have hselect : (target.select.mapM bindAll).map (fun _ => ()) =
      forM target.select.flatten catalog.check := by
    rw [map_mapM, ← forM_flatten]
    exact congrArg (forM target.select) (funext fun pipeline => map_mapM catalog.bind pipeline)
  have hgroupBy : (bindAll target.groupBy).map (fun _ => ()) = forM target.groupBy catalog.check :=
    map_mapM catalog.bind target.groupBy
  have hboth : ∀ (select : Except Error (List (List Part))) (groupBy : Except Error (List Part)),
      (do return (⟨← select, ← groupBy⟩ : Projection)).map (fun _ => ()) =
        select.map (fun _ => ()) >>= fun _ => groupBy.map fun _ => () := by
    rintro (_ | _) (_ | _) <;> rfl
  rw [List.forM_append, ← hselect, ← hgroupBy]
  exact hboth _ _

namespace Settings.Defaults

/-- An empty pipeline has no parts. -/
theorem flatten_select_fill (d : Defaults) (target : Target) :
    (d.fill target).select.flatten = target.select.flatten := by
  cases hselect : target.select <;> simp [fill, hselect]

end Settings.Defaults

namespace Query

theorem map_created (catalog : Catalog) (context : Template.Context) (settings : Settings)
    (target : Target) :
    (created catalog context settings target).map (fun _ => ()) =
      forM (target.select.flatten ++ target.groupBy) catalog.check := by
  have hgroupBy : (settings.defaults.fill target).groupBy = target.groupBy := rfl
  have hbind := Projection.map_bind catalog (settings.defaults.fill target)
  rw [settings.defaults.flatten_select_fill, hgroupBy] at hbind
  rw [← hbind, created]
  cases Projection.bind catalog (settings.defaults.fill target) <;> rfl

/-- A target is valid exactly if all its records are known, and exactly then there is a query for
it. Where it is not, both errors name a record that is not known: validation the first one, clauses
before pipelines, and construction the first one, pipelines before clauses. -/
theorem validate_create (catalog : Catalog) (context : Template.Context) (settings : Settings)
    (target : Target) (m : Metrics) :
    let query := ((create catalog context settings target).eval m).1
    (catalog.validate target = .ok () ↔
      ∀ saved ∈ target.groupBy ++ target.select.flatten, catalog.Knows saved) ∧
    (catalog.validate target = .ok () ↔ ∃ q, query = .ok q) ∧
    (∀ e, catalog.validate target = .error e ↔
      ∃ saved, catalog.FirstUnknown (target.groupBy ++ target.select.flatten) saved ∧
        e = .partNotFound saved.type saved.label?) ∧
    (∀ e, query = .error e ↔
      ∃ saved, catalog.FirstUnknown (target.select.flatten ++ target.groupBy) saved ∧
        e = .partNotFound saved.type saved.label?) := by
  intro query
  have hquery : query.map (fun _ => ()) =
      forM (target.select.flatten ++ target.groupBy) catalog.check := by
    rw [← map_created catalog context settings]
    exact congrArg (Except.map fun _ => ()) (gives_create catalog context settings target m)
  have hvalid : catalog.validate target = .ok () ↔
      ∀ saved ∈ target.groupBy ++ target.select.flatten, catalog.Knows saved :=
    Catalog.forM_check_eq_ok_iff
  refine ⟨hvalid, ?_, fun e => Catalog.forM_check_eq_error_iff, fun e => ?_⟩
  · have hcreated : query.map (fun _ => ()) = .ok () ↔ ∃ q, query = .ok q := by
      simp [map_eq_ok_iff]
    rw [hvalid, ← hcreated, hquery, Catalog.forM_check_eq_ok_iff]
    simp only [List.mem_append, or_comm]
  · rw [← Catalog.forM_check_eq_error_iff, ← hquery, map_eq_error_iff]

end Query

end SeriesQuery
