import SeriesQuery.Proofs.Aggregator.Coding

/-!
Parts that are read back with windows of any size. The size of a window may be read as another
number than the one written, but it is the only thing that can differ.
-/

namespace SeriesQuery

namespace Json

variable {levels : Nat} {v v' : Json}

/-- A value without fractions is read back as it is, if it is read at all. -/
theorem Integral.eq_of_toJson?_ofJson (h : v.Integral)
    (hread : (Document.ofJson v).toJson? levels = some v') : v' = v := by
  by_cases hdepth : v.depth ≤ levels
  · rw [h.toJson?_ofJson levels hdepth] at hread
    exact (Option.some.inj hread).symm
  · rw [toJson?_ofJson_of_lt v (Nat.lt_of_not_le hdepth)] at hread
    cases hread

theorem forall₂_of_itemsToJson? {items items' : List Json}
    (h : Document.itemsToJson? levels (Document.ofItems items) = some items') :
    List.Forall₂ (fun item item' => (Document.ofJson item).toJson? levels = some item')
      items items' := by
  induction items generalizing items' with
  | nil =>
    cases h
    exact .nil
  | cons item items ih =>
    obtain ⟨item', hitem, h⟩ := Option.bind_eq_some_iff.1 h
    obtain ⟨rest, hrest, h⟩ := Option.bind_eq_some_iff.1 h
    cases h
    exact .cons hitem (ih hrest)

theorem forall₂_of_fieldsToJson? {fields fields' : List (String × Json)}
    (h : Document.fieldsToJson? levels (Document.ofFields fields) = some fields') :
    ∃ values, fields' = (fields.map Prod.fst).zip values ∧
      List.Forall₂ (fun field value => (Document.ofJson field.2).toJson? levels = some value)
        fields values := by
  induction fields generalizing fields' with
  | nil =>
    cases h
    exact ⟨[], rfl, .nil⟩
  | cons field fields ih =>
    obtain ⟨name, value⟩ := field
    obtain ⟨value', hvalue, h⟩ := Option.bind_eq_some_iff.1 h
    obtain ⟨rest, hrest, h⟩ := Option.bind_eq_some_iff.1 h
    cases h
    obtain ⟨values, rfl, hvalues⟩ := ih hrest
    exact ⟨value' :: values, rfl, .cons hvalue hvalues⟩

theorem exists_items_of_toJson? {items : List Json}
    (h : (Document.ofJson (.array items)).toJson? levels = some v') :
    ∃ inner items', v' = .array items' ∧
      List.Forall₂ (fun item item' => (Document.ofJson item).toJson? inner = some item')
        items items' := by
  cases levels with
  | zero => cases h
  | succ inner =>
    obtain ⟨items', hitems, rfl⟩ := Option.map_eq_some_iff.1 h
    exact ⟨inner, items', rfl, forall₂_of_itemsToJson? hitems⟩

theorem exists_values_of_toJson? {fields : List (String × Json)}
    (h : (Document.ofJson (.object fields)).toJson? levels = some v') :
    ∃ inner values, v' = .object ((fields.map Prod.fst).zip values) ∧
      List.Forall₂ (fun field value => (Document.ofJson field.2).toJson? inner = some value)
        fields values := by
  cases levels with
  | zero => cases h
  | succ inner =>
    obtain ⟨fields', hfields, rfl⟩ := Option.map_eq_some_iff.1 h
    obtain ⟨values, rfl, hvalues⟩ := forall₂_of_fieldsToJson? hfields
    exact ⟨inner, values, rfl, hvalues⟩

end Json

open Json

variable {levels : Nat} {v : Json}

namespace GroupedAggregation

/-- The aggregation without the size of its window. -/
def unsized (a : GroupedAggregation) : GroupedAggregation :=
  { a with sampling := a.sampling.map fun _ => ⟨none⟩ }

theorem unsized_eq_of_read {a a' : GroupedAggregation}
    (h : (Document.ofJson a.toJson).toJson? levels = some v) (hread : ofJson? v = some a') :
    a'.unsized = a.unsized := by
  rcases a with ⟨kind, _ | s⟩
  · have hintegral : (toJson ⟨kind, none⟩).Integral := toJson_integral (by simp)
    rw [hintegral.eq_of_toJson?_ofJson h, ofJson?_toJson] at hread
    rw [← Option.some.inj hread]
  · have hfields : toJson ⟨kind, some s⟩ =
        .object [("type", .string kind.name), ("sampling", s.toJson)] := rfl
    rw [hfields] at h
    obtain ⟨inner, values, rfl, hvalues⟩ := exists_values_of_toJson? h
    rcases hvalues with _ | ⟨hkind, _ | ⟨hsampling, _ | _⟩⟩
    cases hkind
    obtain ⟨_, window, rfl, -⟩ := exists_values_of_toJson? hsampling
    have hparts : ofParts? (.string kind.name) (.object _) = some a' := hread
    simp only [ofParts?, Json.name?, Aggregation.ofName?_name, Json.option?, Option.bind_eq_bind,
      Option.bind_some, Option.bind_eq_some_iff, Option.map_eq_some_iff] at hparts
    obtain ⟨_, ⟨s', -, rfl⟩, ha⟩ := hparts
    cases ha
    rfl

theorem map_unsized_eq_of_read {each each' : List GroupedAggregation} {items : List Json}
    (h : List.Forall₂ (fun item item' => (Document.ofJson item).toJson? levels = some item')
      (each.map toJson) items) (hread : items.mapM ofJson? = some each') :
    each'.map unsized = each.map unsized := by
  rw [mapM_eq_some_iff] at hread
  induction each generalizing items each' with
  | nil =>
    cases h
    cases hread
    rfl
  | cons a each ih =>
    rcases h with _ | ⟨ha, h⟩
    rcases hread with _ | ⟨ha', hread⟩
    rw [List.map_cons, List.map_cons, unsized_eq_of_read ha ha', ih h hread]

end GroupedAggregation

namespace Aggregator

def unsized : Aggregator → Aggregator
  | group tags each => group tags (each.map GroupedAggregation.unsized)
  | filter kind k inner => filter kind k inner.unsized
  | empty => empty

theorem unsized_eq_of_read {a a' : Aggregator}
    (h : (Document.ofJson a.toJson).toJson? levels = some v) (hread : ofJson? v = some a') :
    a'.unsized = a.unsized := by
  induction a generalizing levels v a' with
  | group tags each =>
    obtain ⟨inner, values, rfl, hvalues⟩ := exists_values_of_toJson? h
    rcases hvalues with _ | ⟨htype, _ | ⟨htags, _ | ⟨heach, _ | _⟩⟩⟩
    cases htype
    obtain ⟨_, items, rfl, hitems⟩ := exists_items_of_toJson? heach
    rw [(ofOption_strings_integral tags).eq_of_toJson?_ofJson htags] at hread
    have hgroup : groupOf? (Json.ofOption Json.strings tags) (.array items) = some a' := hread
    simp only [groupOf?, option?_strings, Json.list?, Option.bind_eq_bind, Option.bind_some,
      Option.bind_eq_some_iff] at hgroup
    obtain ⟨each', heach', ha⟩ := hgroup
    cases ha
    rw [unsized, unsized, GroupedAggregation.map_unsized_eq_of_read hitems heach']
  | filter kind k inner ih =>
    obtain ⟨_, values, rfl, hvalues⟩ := exists_values_of_toJson? h
    rcases hvalues with _ | ⟨htype, _ | ⟨hk, _ | ⟨hinner, _ | _⟩⟩⟩
    cases htype
    have hnumber : (Json.ofInt64 k).Integral := .integer _ _
    rw [hnumber.eq_of_toJson?_ofJson hk] at hread
    obtain ⟨inner', hinner', rfl⟩ :=
      Option.map_eq_some_iff.1 ((ofJson?_filter kind k _).symm.trans hread)
    rw [unsized, unsized, ih hinner hinner']
  | empty =>
    have hintegral : (toJson .empty).Integral := toJson_integral (a := .empty) trivial
    rw [hintegral.eq_of_toJson?_ofJson h, ofJson?_toJson] at hread
    rw [← Option.some.inj hread]

end Aggregator

namespace RenderedPart

def unsized : RenderedPart → RenderedPart
  | aggregator value => aggregator value.unsized
  | expression text => expression text

theorem unsized_eq_of_reader {part part' : RenderedPart}
    (h : reader levels (.ofJson part.toJson) = .ok part') : part'.unsized = part.unsized := by
  obtain ⟨v, hv, hread⟩ := reader_eq_ok_iff.1 h
  cases part with
  | aggregator a =>
    obtain ⟨fields, hfields⟩ : ∃ fields, a.toJson = .object fields := by cases a <;> exact ⟨_, rfl⟩
    have hvalue : (Document.ofJson a.toJson).toJson? levels = some v := hv
    rw [hfields] at hvalue
    obtain ⟨_, _, hobject, -⟩ := exists_values_of_toJson? hvalue
    -- An object is no text, so that only an aggregator can be read.
    have hno : v.string? = none := by rw [hobject]; rfl
    simp only [ofJson?, hno, Option.map_none, Option.or_none] at hread
    obtain ⟨a', ha', rfl⟩ := Option.map_eq_some_iff.1 hread
    rw [unsized, unsized, Aggregator.unsized_eq_of_read hv ha']
  | expression text =>
    have hintegral : (toJson (.expression text)).Integral := .string text
    rw [hintegral.eq_of_toJson?_ofJson hv, ofJson?_toJson] at hread
    rw [← Option.some.inj hread]

/-- Parts are read back as they are, apart from the sizes of their windows. -/
theorem map_unsized_eq_of_reader {parts parts' : List RenderedPart}
    (h : Reader.list reader levels (.ofJson (.array (parts.map toJson))) = .ok parts') :
    parts'.map unsized = parts.map unsized := by
  cases levels with
  | zero => cases h
  | succ inner =>
    have hitems : (Document.ofItems (parts.map toJson)).mapM (reader inner) = .ok parts' := h
    rw [Document.ofItems_eq_map, mapM_eq_ok_iff, List.forall₂_map_left_iff,
      List.forall₂_map_left_iff] at hitems
    have hsame : List.Forall₂ (· = ·) (parts.map unsized) (parts'.map unsized) := by
      rw [List.forall₂_map_left_iff, List.forall₂_map_right_iff]
      exact hitems.imp fun _ _ hread => (unsized_eq_of_reader hread).symm
    rw [List.forall₂_eq_eq_eq] at hsame
    exact hsame.symm

end RenderedPart

end SeriesQuery
