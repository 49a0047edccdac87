import SeriesQuery.Aggregator.Basic
import SeriesQuery.Proofs.Result
import SeriesQuery.Proofs.Template.Leafwise

/-!
Rendered parts as JSON values. Every part is read back from its value, and a change of the strings
of the value is a change of tags and expressions.
-/

namespace SeriesQuery

open Json (Scannable Spaced Integral)
open Template (FixesWords)

namespace Json

theorem strings_scannable (values : List String) : (strings values).Scannable := by
  refine .array (fun inner hinner => ?_) fun item hitem => ?_
  · cases values <;> cases hinner
  · obtain ⟨text, _, rfl⟩ := List.mem_map.1 hitem
    exact .string text

theorem depth_strings (values : List String) : (strings values).depth ≤ 1 := by
  have hitems : itemDepth (values.map .string) ≤ 0 := by
    refine itemDepth_le fun item hitem => ?_
    obtain ⟨text, _, rfl⟩ := List.mem_map.1 hitem
    exact Nat.le_refl 0
  rw [strings, depth]
  omega

theorem mapText_strings (g : String → String) (values : List String) :
    (strings values).mapText g = strings (values.map g) := by
  rw [strings, mapText, mapTextItems_eq_map, List.map_map, strings, List.map_map]
  rfl

end Json

namespace Sampling

/-- The size of a window, if there is one, is a whole number. -/
def IsWhole (s : Sampling) : Prop :=
  ∀ n ∈ s.value, ∃ value fits, n = .integer value fits

theorem toJson_spaced (s : Sampling) : s.toJson.Spaced := by
  have hvalue : (Json.ofOption .number s.value).Spaced := by
    cases s.value with
    | none => exact .null
    | some n => exact .number n
  exact .object (by simp [hvalue, Spaced.string])

theorem toJson_integral {s : Sampling} (h : s.IsWhole) : s.toJson.Integral := by
  have hvalue : (Json.ofOption .number s.value).Integral := by
    cases hn : s.value with
    | none => exact .null
    | some n =>
      obtain ⟨value, fits, rfl⟩ := h n hn
      exact .integer value fits
  exact .object (by simp [hvalue, Integral.string])

theorem mapText_toJson {g : String → String} (hg : FixesWords g) (s : Sampling) :
    s.toJson.mapText g = s.toJson := by
  have hname : g "unit" = "unit" := hg _ (by decide)
  have hvalue : g "value" = "value" := hg _ (by decide)
  have hunit : g unitName = unitName := hg _ (by decide)
  unfold toJson
  cases s.value <;>
    simp only [Json.ofOption, Json.mapText, Json.mapTextFields, hname, hvalue, hunit]

theorem depth_toJson (s : Sampling) : s.toJson.depth = 1 := by
  rcases s with ⟨_ | n⟩ <;> rfl

@[simp] theorem ofJson?_toJson (s : Sampling) : ofJson? s.toJson = some s := by
  rcases s with ⟨_ | n⟩ <;> rfl

end Sampling

namespace GroupedAggregation

theorem toJson_spaced (a : GroupedAggregation) : a.toJson.Spaced := by
  rcases a with ⟨kind, _ | s⟩
  · exact .object (by simp [Json.optional, Spaced.string])
  · exact .object (by simp [Json.optional, Spaced.string, s.toJson_spaced])

theorem toJson_integral {a : GroupedAggregation} (h : ∀ s ∈ a.sampling, s.IsWhole) :
    a.toJson.Integral := by
  rcases a with ⟨kind, _ | s⟩
  · exact .object (by simp [Json.optional, Integral.string])
  · have hs : s.toJson.Integral := Sampling.toJson_integral (h s rfl)
    exact .object (by simp [Json.optional, Integral.string, hs])

theorem mapText_toJson {g : String → String} (hg : FixesWords g) (a : GroupedAggregation) :
    a.toJson.mapText g = a.toJson := by
  have htype : g "type" = "type" := hg _ (by decide)
  have hsampling : g "sampling" = "sampling" := hg _ (by decide)
  have hkind : g a.kind.name = a.kind.name := by
    apply hg
    cases a.kind <;> decide
  unfold toJson
  cases a.sampling with
  | none => simp only [Json.optional, Json.mapText, Json.mapTextFields, htype, hkind]
  | some s =>
    have hs := s.mapText_toJson hg
    simp only [Json.optional, Json.mapText, Json.mapTextFields, htype, hsampling, hkind, hs]

theorem depth_toJson_le (a : GroupedAggregation) : a.toJson.depth ≤ 2 := by
  rcases a with ⟨kind, _ | s⟩
  · exact Nat.le_succ 1
  · simp [toJson, Json.optional, Json.depth, Json.fieldDepth, s.depth_toJson]

@[simp] theorem ofJson?_toJson (a : GroupedAggregation) : ofJson? a.toJson = some a := by
  rcases a with ⟨kind, _ | s⟩
  · have hparts : ofParts? (.string kind.name) .null = some ⟨kind, none⟩ := by
      simp [ofParts?, Json.name?, Json.option?]
    exact hparts
  · have hparts : ofParts? (.string kind.name) s.toJson = some ⟨kind, some s⟩ := by
      have hs := Sampling.ofJson?_toJson s
      have hoption : s.toJson.option? Sampling.ofJson? = some (some s) := by
        rw [Sampling.toJson] at hs ⊢
        simp [Json.option?, hs]
      simp [ofParts?, Json.name?, hoption]
    exact hparts

end GroupedAggregation

namespace Aggregator

/-- The windows of all aggregations have whole sizes, or none. -/
def IsWhole : Aggregator → Prop
  | group _ each => ∀ a ∈ each, ∀ s ∈ a.sampling, s.IsWhole
  | filter _ _ inner => inner.IsWhole
  | empty => True

/-- The aggregator with other tags. -/
def mapText (g : String → String) : Aggregator → Aggregator
  | group tags each => group (tags.map (·.map g)) each
  | filter kind k inner => filter kind k (inner.mapText g)
  | empty => empty

theorem toJson_spaced (a : Aggregator) : a.toJson.Spaced := by
  induction a with
  | group tags each =>
    have htags : (Json.ofOption Json.strings tags).Spaced := by
      cases tags with
      | none => exact .null
      | some values => exact (Json.strings_scannable values).spaced
    have heach : (Json.array (each.map GroupedAggregation.toJson)).Spaced := by
      refine .array (fun inner hinner => ?_) fun item hitem => ?_
      · cases each <;> cases hinner
      · obtain ⟨a, _, rfl⟩ := List.mem_map.1 hitem
        exact a.toJson_spaced
    exact .object (by simp [htags, heach, Spaced.string])
  | filter kind k inner ih =>
    have hk : (Json.ofInt64 k).Spaced := .number _
    exact .object (by simp [ih, hk, Spaced.string])
  | empty => exact .object (by simp [Spaced.string])

theorem ofOption_strings_integral (tags : Option (List String)) :
    (Json.ofOption Json.strings tags).Integral := by
  cases tags with
  | none => exact .null
  | some values => exact (Json.strings_scannable values).integral

theorem toJson_integral {a : Aggregator} (h : a.IsWhole) : a.toJson.Integral := by
  induction a with
  | group tags each =>
    have htags := ofOption_strings_integral tags
    have heach : (Json.array (each.map GroupedAggregation.toJson)).Integral := by
      refine .array fun item hitem => ?_
      obtain ⟨a, ha, rfl⟩ := List.mem_map.1 hitem
      exact GroupedAggregation.toJson_integral (h a ha)
    exact .object (by simp [htags, heach, Integral.string])
  | filter kind k inner ih =>
    have hinner := ih h
    have hk : (Json.ofInt64 k).Integral := .integer _ _
    exact .object (by simp [hinner, hk, Integral.string])
  | empty => exact .object (by simp [Integral.string])

theorem mapText_toJson {g : String → String} (hg : FixesWords g) (a : Aggregator) :
    a.toJson.mapText g = (a.mapText g).toJson := by
  have htype : g "type" = "type" := hg _ (by decide)
  have hof : g "of" = "of" := hg _ (by decide)
  induction a with
  | group tags each =>
    have hshape : g Shape.group.name = Shape.group.name := hg _ (by decide)
    have hname : g "each" = "each" := hg _ (by decide)
    have htags : (Json.ofOption Json.strings tags).mapText g =
        Json.ofOption Json.strings (tags.map (·.map g)) := by
      cases tags with
      | none => rfl
      | some values => exact Json.mapText_strings g values
    have heach : Json.mapTextItems g (each.map GroupedAggregation.toJson) =
        each.map GroupedAggregation.toJson := by
      rw [Json.mapTextItems_eq_map, List.map_map]
      exact List.map_congr_left fun a _ => a.mapText_toJson hg
    simp only [toJson, mapText, Json.mapText, Json.mapTextFields, htype, hof, hname, hshape, htags,
      heach]
  | filter kind k inner ih =>
    have hk : g "k" = "k" := hg _ (by decide)
    have hkind : g kind.name = kind.name := by
      apply hg
      cases kind <;> decide
    have hnumber : (Json.ofInt64 k).mapText g = Json.ofInt64 k := rfl
    simp only [toJson, mapText, Json.mapText, Json.mapTextFields, htype, hof, hk, hkind, hnumber,
      ih]
  | empty =>
    have hshape : g Shape.empty.name = Shape.empty.name := hg _ (by decide)
    simp only [toJson, mapText, Json.mapText, Json.mapTextFields, htype, hshape]

/-- A grouping holds a list of aggregations, and they hold windows. -/
theorem depth_group_le (tags : Option (List String)) (each : List GroupedAggregation) :
    (group tags each).toJson.depth ≤ 4 := by
  have htags : (Json.ofOption Json.strings tags).depth ≤ 1 := by
    cases tags with
    | none => exact Nat.zero_le 1
    | some values => exact Json.depth_strings values
  have heach : Json.itemDepth (each.map GroupedAggregation.toJson) ≤ 2 := by
    refine Json.itemDepth_le fun item hitem => ?_
    obtain ⟨a, _, rfl⟩ := List.mem_map.1 hitem
    exact a.depth_toJson_le
  simp only [toJson, Json.depth, Json.fieldDepth]
  omega

theorem int64?_ofInt64 (k : Int64) : (Json.ofInt64 k).int64? = some k := by
  have hlt := Int64.toInt_lt k
  simp only [Json.ofInt64, Json.integer, Json.int64?]
  rw [if_pos (by omega), Int64.ofInt_toInt]

theorem option?_strings (tags : Option (List String)) :
    (Json.ofOption Json.strings tags).option? (Json.list? Json.string?) = some tags := by
  cases tags with
  | none => rfl
  | some values =>
    have hvalues : (values.map Json.string).mapM Json.string? = some values :=
      mapM_map_eq_pure fun _ _ => rfl
    simp [Json.ofOption, Json.strings, Json.option?, Json.list?, hvalues]

theorem groupOf?_toJson (tags : Option (List String)) (each : List GroupedAggregation) :
    groupOf? (Json.ofOption Json.strings tags) (.array (each.map GroupedAggregation.toJson)) =
      some (.group tags each) := by
  have heach : (each.map GroupedAggregation.toJson).mapM GroupedAggregation.ofJson? = some each :=
    mapM_map_eq_pure fun a _ => a.ofJson?_toJson
  simp [groupOf?, option?_strings, Json.list?, heach]

/-- A filter of series is read from its number and from what it applies to. -/
theorem ofJson?_filter (kind : SeriesFilter) (k : Int64) (inner : Json) :
    ofJson? (.object [("type", .string kind.name), ("k", .ofInt64 k), ("of", inner)]) =
      (ofJson? inner).map (filter kind k) := by
  have hshape : Shape.ofJson? (.string kind.name) = some (.filter kind) := by
    cases kind <;> decide
  have hk := int64?_ofInt64 k
  have hinner : innerOf? [("type", .string kind.name), ("k", .ofInt64 k), ("of", inner)] =
      ofJson? inner := by
    rw [innerOf?, if_neg (by decide), innerOf?, if_neg (by decide), innerOf?, if_pos rfl]
  rw [ofJson?]
  cases hread : ofJson? inner <;> simp [Json.once?, hshape, hk, hinner, hread]

/-- An aggregator is read back from its value. -/
@[simp] theorem ofJson?_toJson (a : Aggregator) : ofJson? a.toJson = some a := by
  induction a with
  | group tags each => exact groupOf?_toJson tags each
  | filter kind k inner ih => rw [toJson, ofJson?_filter, ih, Option.map_some]
  | empty => rfl

end Aggregator

namespace RenderedPart

/-- The windows of the aggregations of a part have whole sizes, or none. -/
def IsWhole : RenderedPart → Prop
  | aggregator value => value.IsWhole
  | expression _ => True

/-- The part with other tags, or with another expression. -/
def mapText (g : String → String) : RenderedPart → RenderedPart
  | aggregator value => aggregator (value.mapText g)
  | expression text => expression (g text)

theorem toJson_spaced (part : RenderedPart) : part.toJson.Spaced := by
  cases part with
  | aggregator value => exact value.toJson_spaced
  | expression text => exact .string text

theorem toJson_integral {part : RenderedPart} (h : part.IsWhole) : part.toJson.Integral := by
  cases part with
  | aggregator value => exact Aggregator.toJson_integral h
  | expression text => exact .string text

theorem mapText_toJson {g : String → String} (hg : FixesWords g) (part : RenderedPart) :
    part.toJson.mapText g = (part.mapText g).toJson := by
  cases part with
  | aggregator value => exact value.mapText_toJson hg
  | expression text => rfl

/-- A part is read back from its value. -/
@[simp] theorem ofJson?_toJson (part : RenderedPart) : ofJson? part.toJson = some part := by
  cases part with
  | aggregator value => simp [ofJson?, toJson]
  | expression text => rfl

/-- A part is read from the value that its document is. -/
theorem reader_eq_ok_iff {levels : Nat} {document : Json.Document} {part : RenderedPart} :
    reader levels document = .ok part ↔
      ∃ v, document.toJson? levels = some v ∧ ofJson? v = some part := by
  unfold reader Json.Reader.andThen Json.Reader.json
  cases document.toJson? levels with
  | none => simp [bind, Except.bind]
  | some v => cases h : ofJson? v <;> simp [bind, Except.bind, h]

/-- A part without fractions is read back, where its value is not too deep. -/
theorem reader_ofJson {levels : Nat} {part : RenderedPart} (hintegral : part.toJson.Integral)
    (hdepth : part.toJson.depth ≤ levels) : reader levels (.ofJson part.toJson) = .ok part :=
  reader_eq_ok_iff.2 ⟨_, hintegral.toJson?_ofJson levels hdepth, part.ofJson?_toJson⟩

end RenderedPart

end SeriesQuery
