import SeriesQuery.Catalog.Standard
import SeriesQuery.Proofs.Template.Alternation
import SeriesQuery.Proofs.Template.SinglePass
import SeriesQuery.Query.Basic

/-!
Keys of measurements that are variables. The value of the variable goes into the key as a regular
expression, which tells what was selected.
-/

namespace SeriesQuery.Query

open Template

/-- The measurement of a query, or that of its settings where the target leaves it blank. -/
def measurement (q : Query) : String :=
  Settings.Defaults.orElse q.target.measurement q.settings.defaults.measurement

/-- The measurement is one placeholder, for a variable of this value, and a regular expression goes
in its place: the placeholder names no format, or this one. -/
def KeyedBy (q : Query) (value : Value) : Prop :=
  ∃ vars p v, q.context.service = .dashboard vars ∧ Opens p [] ∧
    q.measurement = .ofList p.source ∧ (∀ format ∈ p.format, format = "regex".toList) ∧
    knownVariable q.context.panel vars (.ofList p.name) = some v ∧ v.value = value

theorem KeyedBy.key_eq {q : Query} {value : Value} (h : q.KeyedBy value) :
    q.key = value.format (some "regex") := by
  obtain ⟨vars, p, v, hservice, hopens, hmeasurement, hformat, hknown, rfl⟩ := h
  have hscan : Scan q.measurement.toList [.placeholder p] := by
    rw [hmeasurement, String.toList_ofList]
    have h := Scan.placeholder hopens .nil
    rwa [List.append_nil] at h
  have hregex : (p.format.map String.ofList).or (some "regex") = some "regex" := by
    cases hp : p.format with
    | none => rfl
    | some format =>
      rw [hformat format hp, Option.map_some, String.ofList_toList, Option.some_or]
  rw [← String.toList_inj]
  calc
    q.key.toList = (q.context.replace (some "regex") q.measurement).toList := rfl
    _ = Segment.output (knownVariable q.context.panel vars)
          (fun p v => v.value.format ((p.format.map String.ofList).or (some "regex")))
          (.placeholder p) := by
      rw [Context.replace, hservice, toList_substituteWith _ hscan, List.flatMap_singleton]
    _ = (v.value.format (some "regex")).toList := by
      rw [Segment.output, hknown, hregex]

end SeriesQuery.Query
