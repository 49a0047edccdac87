import SeriesQuery.Proofs.Aggregator.Coding
import SeriesQuery.Proofs.Json.Records
import SeriesQuery.Target.Basic

/-!
Saved parts and targets as JSON. A part is read back from its value, and a change of the strings of
the value is a change of its type and of its parameters, unless its category is not known. Every
target is read back from its text.
-/

namespace SeriesQuery

open Template (FixesWords)

namespace Scope

/-- No category, or one that is known. -/
def IsKnown : Scope → Prop
  | .unrecognized .. => False
  | _ => True

end Scope

namespace SavedPart

/-- The part with another type and other parameters. -/
def mapText (g : String → String) (part : SavedPart) : SavedPart :=
  { part with type := g part.type, params := part.params.map (·.map g) }

theorem toJson_scannable (part : SavedPart) : part.toJson.Scannable := by
  refine .object fun field hfield => ?_
  simp only [List.mem_append, List.mem_cons] at hfield
  rcases hfield with (rfl | hfield) | hfield
  · exact .string _
  · cases hparams : part.params with
    | none => simp [hparams, Json.optional] at hfield
    | some params =>
      simp only [hparams, Json.optional, List.mem_singleton] at hfield
      rw [hfield]
      exact Json.strings_scannable params
  · cases hlabel : part.label? with
    | none => simp [hlabel, Json.optional] at hfield
    | some label =>
      simp only [hlabel, Json.optional, List.mem_singleton] at hfield
      rw [hfield]
      exact .string _

theorem mapText_toJson {g : String → String} (hg : FixesWords g) {part : SavedPart}
    (h : part.scope.IsKnown) : part.toJson.mapText g = (part.mapText g).toJson := by
  have htype : g "type" = "type" := hg _ (by decide)
  have hparams : g "params" = "params" := hg _ (by decide)
  have hcategory : g "categoryName" = "categoryName" := hg _ (by decide)
  have hlabel : ∀ category : Category, g category.label = category.label := by
    intro category
    apply hg
    cases category <;> decide
  obtain ⟨type, params, scope⟩ := part
  cases scope with
  | unrecognized label unknown => exact absurd h id
  | none =>
    cases params <;>
      simp [toJson, mapText, label?, Scope.label?, Json.optional, Json.mapText,
        Json.mapTextFields, Json.mapText_strings, htype, hparams]
  | known category =>
    cases params <;>
      simp [toJson, mapText, label?, Scope.label?, Json.optional, Json.mapText,
        Json.mapTextFields, Json.mapText_strings, htype, hparams, hcategory, hlabel]

theorem paramsReader_ofJson (params : List String) (levels : Nat) :
    paramsReader (levels + 1) (.ofJson (Json.strings params)) = .ok (some params) := by
  have hread : Json.Reader.list .sortedJson (levels + 1) (.ofJson (Json.strings params)) =
      .ok (params.map .string) := by
    have hitems : ∀ value ∈ params.map Json.string,
        Json.Reader.sortedJson levels (.ofJson value) = .ok value := by
      intro value hvalue
      obtain ⟨text, _, rfl⟩ := List.mem_map.1 hvalue
      rfl
    have hlist := @Json.Reader.list_ofJson Json levels id .sortedJson _ hitems
    rwa [List.map_id] at hlist
  have hparams : (params.map Json.string).mapM paramOfJson = .ok params :=
    mapM_map_eq_pure fun _ _ => rfl
  have hoption : Json.Reader.option (.list .sortedJson) (levels + 1)
      (.ofJson (Json.strings params)) = .ok (some (params.map .string)) := by
    rw [Json.strings, Json.Document.ofJson] at hread ⊢
    simp only [Json.Reader.option, hread, Except.map]
  unfold paramsReader Json.Reader.andThen
  rw [hoption]
  change ((params.map Json.string).mapM paramOfJson).map some = _
  rw [hparams]
  rfl

theorem reader_ofJson (part : SavedPart) (levels : Nat) :
    reader (levels + 2) (.ofJson part.toJson) = .ok part := by
  have hscope : Scope.ofLabel? part.label? = part.scope := Scope.ofLabel?_label? part.scope
  unfold reader toJson
  refine (Json.Fields.Writes.reader_ofJson (.present rfl
    (.optional (fun params _ => paramsReader_ofJson params levels)
      (.optional_done fun _ _ => rfl))) (by decide) _).trans ?_
  simp only [hscope]

end SavedPart

namespace Tag

theorem reader_ofJson (tag : Tag) (levels : Nat) :
    reader (levels + 1) (.ofJson tag.toJson) = .ok tag := by
  unfold reader toJson
  simp only [List.append_assoc, List.cons_append]
  exact (Json.Fields.Writes.reader_ofJson (.present rfl (.optional (fun _ _ => rfl)
    (.optional (fun _ _ => rfl) (.optional (fun _ _ => rfl) (.optional_done fun _ _ => rfl)))))
    (by decide) _).trans rfl

end Tag

namespace Target

open Json

theorem reader_ofJson (target : Target) (levels : Nat) :
    reader (levels + 5) (.ofJson target.toJson) = .ok target := by
  have hparts : ∀ parts : List SavedPart, ∀ levels,
      Reader.list SavedPart.reader (levels + 3) (.ofJson (.array (parts.map SavedPart.toJson))) =
        .ok parts :=
    fun parts levels => Reader.list_ofJson fun part _ => part.reader_ofJson levels
  have htags := Reader.list_ofJson fun (tag : Tag) (_ : tag ∈ target.tags) =>
    tag.reader_ofJson (levels + 2)
  have hselect := Reader.list_ofJson fun (pipeline : List SavedPart)
    (_ : pipeline ∈ target.select) => hparts pipeline levels
  unfold reader toJson
  simp only [List.append_assoc, List.cons_append, List.nil_append]
  exact (Fields.Writes.reader_ofJson (.optional (fun _ _ => rfl) (.present rfl (.present rfl
    (.present rfl (.present htags (.present (hparts _ _) (.present hselect
      (.optional (fun _ _ => rfl) (.optional (fun _ _ => rfl)
        (.optional_done fun _ _ => rfl)))))))))) (by decide) _).trans rfl

/-- Every target is read back from its text. -/
theorem ofText_text (target : Target) : ofText target.text = .ok target :=
  (Reader.run_text target.toJson reader).trans (target.reader_ofJson 122)

end Target

end SeriesQuery
