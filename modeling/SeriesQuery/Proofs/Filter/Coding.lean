import SeriesQuery.Filter.Basic
import SeriesQuery.Proofs.Json.Reading
import SeriesQuery.Proofs.Result
import SeriesQuery.Proofs.Template.Leafwise

/-!
Filters as JSON values. A filter is read back from its value unless a comparison has the name of the
conjunction, and from nothing else; a change of the strings of the value is a change of the texts of
the filter.
-/

namespace SeriesQuery.Filter

mutual

/-- The filter with other texts. -/
def mapText (g : String → String) : Filter → Filter
  | always => always
  | and children => and (mapTextChildren g children)
  | key value => key (g value)
  | not inner => not (inner.mapText g)
  | custom expression => custom (g expression)
  | compare operator tag value => compare (g operator) (g tag) (g value)

def mapTextChildren (g : String → String) : List Filter → List Filter
  | [] => []
  | child :: rest => child.mapText g :: mapTextChildren g rest

end

mutual

/-- The operators of all comparisons within a filter. -/
def operators : Filter → List String
  | and children => childrenOperators children
  | not inner => inner.operators
  | compare operator _ _ => [operator]
  | _ => []

def childrenOperators : List Filter → List String
  | [] => []
  | child :: rest => child.operators ++ childrenOperators rest

end

theorem childrenToJson_eq_map (children : List Filter) :
    childrenToJson children = children.map toJson := by
  induction children with
  | nil => rfl
  | cons child rest ih => rw [childrenToJson, ih, List.map_cons]

open Json (Scannable)
open Template (FixesWords)

mutual

theorem toJson_scannable : ∀ f : Filter, f.toJson.Scannable
  | always => by
    rw [toJson]
    exact .array (by simp) (by simp [Scannable.string])
  | and children => by
    rw [toJson]
    refine .array (by simp) fun item hitem => ?_
    rcases List.mem_cons.1 hitem with rfl | hitem
    · exact .string _
    · exact childrenToJson_scannable children item hitem
  | key value => by
    rw [toJson]
    exact .array (by simp) (by simp [Scannable.string])
  | not inner => by
    have hinner := toJson_scannable inner
    rw [toJson]
    exact .array (by simp) (by simp [Scannable.string, hinner])
  | custom expression => by
    rw [toJson]
    exact .array (by simp) (by simp [Scannable.string])
  | compare operator tag value => by
    rw [toJson]
    exact .array (by simp) (by simp [Scannable.string])

theorem childrenToJson_scannable :
    ∀ children : List Filter, ∀ item ∈ childrenToJson children, item.Scannable
  | [] => by simp [childrenToJson]
  | child :: rest => by
    intro item hitem
    rw [childrenToJson] at hitem
    rcases List.mem_cons.1 hitem with rfl | hitem
    · exact toJson_scannable child
    · exact childrenToJson_scannable rest item hitem

end

section

variable {g : String → String}

mutual

theorem mapText_toJson (hg : FixesWords g) :
    ∀ f : Filter, f.toJson.mapText g = (f.mapText g).toJson
  | always => by
    simp only [toJson, mapText, Json.mapText, Json.mapTextItems, hg "true" (by decide)]
  | and children => by
    have hchildren := mapTextItems_childrenToJson hg children
    simp only [toJson, mapText, Json.mapText, Json.mapTextItems, hg "and" (by decide), hchildren]
  | key value => by
    simp only [toJson, mapText, Json.mapText, Json.mapTextItems, hg "key" (by decide)]
  | not inner => by
    have hinner := mapText_toJson hg inner
    simp only [toJson, mapText, Json.mapText, Json.mapTextItems, hg "not" (by decide), hinner]
  | custom expression => by
    simp only [toJson, mapText, Json.mapText, Json.mapTextItems, hg "q" (by decide)]
  | compare operator tag value => by
    simp only [toJson, mapText, Json.mapText, Json.mapTextItems]

theorem mapTextItems_childrenToJson (hg : FixesWords g) :
    ∀ children : List Filter,
      Json.mapTextItems g (childrenToJson children) = childrenToJson (mapTextChildren g children)
  | [] => rfl
  | child :: rest => by
    have hchild := mapText_toJson hg child
    have hrest := mapTextItems_childrenToJson hg rest
    rw [childrenToJson, Json.mapTextItems, mapTextChildren, childrenToJson, hchild, hrest]

end

end

mutual

theorem sorted_toJson : ∀ f : Filter, f.toJson.sorted = f.toJson
  | always => rfl
  | and children => by
    have hchildren := sortedItems_childrenToJson children
    simp only [toJson, Json.sorted, Json.sortedItems, hchildren]
  | key _ => rfl
  | not inner => by
    have hinner := sorted_toJson inner
    simp only [toJson, Json.sorted, Json.sortedItems, hinner]
  | custom _ => rfl
  | compare _ _ _ => rfl

theorem sortedItems_childrenToJson :
    ∀ children : List Filter, Json.sortedItems (childrenToJson children) = childrenToJson children
  | [] => rfl
  | child :: rest => by
    rw [childrenToJson, Json.sortedItems, sorted_toJson child, sortedItems_childrenToJson rest]

end

mutual

/-- A filter is read back from its value, if no comparison has the name of the conjunction. -/
theorem ofJson_toJson : ∀ f : Filter, "and" ∉ f.operators → ofJson f.toJson = .ok f
  | always, _ => rfl
  | and children, h => by
    have hchildren := ofChildren_childrenToJson children h
    simp only [toJson, ofJson, hchildren]
    rfl
  | key _, _ => rfl
  | not inner, h => by
    have hinner := ofJson_toJson inner h
    simp only [toJson, ofJson, hinner]
    rfl
  | custom _, _ => rfl
  | compare operator tag value, h => by
    have hoperator : operator ≠ "and" := fun heq => h (by simp [operators, heq])
    simp only [toJson]
    rw [ofJson]
    · rfl
    · exact hoperator

theorem ofChildren_childrenToJson : ∀ children : List Filter, "and" ∉ childrenOperators children →
    ofChildren (childrenToJson children) = .ok children
  | [], _ => rfl
  | child :: rest, h => by
    rw [childrenOperators, List.mem_append, not_or] at h
    have hchild := ofJson_toJson child h.1
    have hrest := ofChildren_childrenToJson rest h.2
    simp only [childrenToJson, ofChildren, hchild, hrest]
    rfl

end

theorem reader_ofJson_eq {f : Filter} {levels : Nat} (hdepth : f.toJson.depth ≤ levels) :
    reader levels (.ofJson f.toJson) = ofJson f.toJson := by
  have hvalue := f.toJson_scannable.integral.toJson?_ofJson levels hdepth
  have hjson : Json.Reader.sortedJson levels (.ofJson f.toJson) = .ok f.toJson := by
    simp only [Json.Reader.sortedJson, Json.Reader.map, Json.Reader.json, hvalue, Except.map,
      sorted_toJson]
  unfold reader Json.Reader.andThen
  rw [hjson]
  rfl

theorem reader_ofJson {f : Filter} {levels : Nat} (hdepth : f.toJson.depth ≤ levels)
    (hand : "and" ∉ f.operators) : reader levels (.ofJson f.toJson) = .ok f := by
  rw [reader_ofJson_eq hdepth, ofJson_toJson f hand]

/-- A filter with more levels than are left is refused. -/
theorem reader_ofJson_of_lt {f : Filter} {levels : Nat} (hdepth : levels < f.toJson.depth) :
    reader levels (.ofJson f.toJson) = .error .malformed := by
  have hvalue := Json.toJson?_ofJson_of_lt f.toJson hdepth
  have hjson : Json.Reader.json levels (.ofJson f.toJson) = .error .malformed := by
    simp only [Json.Reader.json, hvalue]
  unfold reader Json.Reader.andThen Json.Reader.sortedJson Json.Reader.map
  rw [hjson]
  rfl

theorem stringAt_eq_ok {whole value : Json} {position : Nat} {text : String}
    (h : stringAt whole position value = .ok text) : value = .string text := by
  unfold stringAt at h
  split at h
  · cases h
    rfl
  · cases h

/-- Whatever is read as a filter is the value of the filter. -/
theorem toJson_of_ofJson {f : Filter} {v : Json} (h : ofJson v = .ok f) : f.toJson = v := by
  revert f
  apply ofJson.induct_unfolding (fun v result => ∀ {f : Filter}, result = .ok f → f.toJson = v)
    (fun items result => ∀ {children : List Filter}, result = .ok children →
      childrenToJson children = items)
  case case1 =>
    intro items ih f h
    obtain ⟨children, hchildren, rfl⟩ := map_eq_ok_iff.1 h
    rw [toJson, ih hchildren]
  case case2 =>
    intro f h
    cases h
    rfl
  case case3 =>
    intro value f h
    obtain ⟨text, htext, rfl⟩ := map_eq_ok_iff.1 h
    rw [toJson, stringAt_eq_ok htext]
  case case4 =>
    intro value ih f h
    obtain ⟨inner, hinner, rfl⟩ := map_eq_ok_iff.1 h
    rw [toJson, ih hinner]
  case case5 =>
    intro value f h
    obtain ⟨text, htext, rfl⟩ := map_eq_ok_iff.1 h
    rw [toJson, stringAt_eq_ok htext]
  case case6 =>
    intro operator tag value _ f h
    obtain ⟨tagText, htag, h⟩ := bind_eq_ok_iff.1 h
    obtain ⟨valueText, hvalue, h⟩ := bind_eq_ok_iff.1 h
    cases h
    rw [toJson, stringAt_eq_ok htag, stringAt_eq_ok hvalue]
  case case10 =>
    intro children h
    cases h
    rfl
  case case11 =>
    intro item rest ihItem ihRest children h
    obtain ⟨child, hchild, h⟩ := bind_eq_ok_iff.1 h
    obtain ⟨others, hothers, h⟩ := bind_eq_ok_iff.1 h
    cases h
    rw [childrenToJson, ihItem hchild, ihRest hothers]
  all_goals
    intros
    contradiction

mutual

/-- No filter is read from the value of one with a comparison that has the name of the conjunction:
the two strings behind the name are no filters. -/
theorem not_mem_operators_of_ofJson : ∀ (f : Filter) {g : Filter},
    ofJson f.toJson = .ok g → "and" ∉ f.operators
  | always, _, _ | key _, _, _ | custom _, _, _ => List.not_mem_nil
  | and children, g, h => by
    rw [toJson, ofJson] at h
    obtain ⟨others, hothers, -⟩ := map_eq_ok_iff.1 h
    exact not_mem_childrenOperators_of_ofChildren children hothers
  | not inner, g, h => by
    rw [toJson, ofJson] at h
    obtain ⟨other, hother, -⟩ := map_eq_ok_iff.1 h
    exact not_mem_operators_of_ofJson inner hother
  | compare operator tag value, g, h => by
    rw [operators, List.mem_singleton]
    rintro rfl
    rw [toJson, ofJson] at h
    obtain ⟨others, hothers, -⟩ := map_eq_ok_iff.1 h
    obtain ⟨other, hother, -⟩ := bind_eq_ok_iff.1 hothers
    cases hother

theorem not_mem_childrenOperators_of_ofChildren : ∀ (children : List Filter) {others : List Filter},
    ofChildren (childrenToJson children) = .ok others → "and" ∉ childrenOperators children
  | [], _, _ => List.not_mem_nil
  | child :: rest, others, h => by
    rw [childrenToJson, ofChildren] at h
    obtain ⟨other, hother, h⟩ := bind_eq_ok_iff.1 h
    obtain ⟨more, hmore, -⟩ := bind_eq_ok_iff.1 h
    rw [childrenOperators, List.mem_append, not_or]
    exact ⟨not_mem_operators_of_ofJson child hother,
      not_mem_childrenOperators_of_ofChildren rest hmore⟩

end

/-- The value of a filter with such a comparison is refused. -/
theorem exists_refusal_of_mem_operators {f : Filter} (h : "and" ∈ f.operators) :
    ∃ refusal, ofJson f.toJson = .error refusal := by
  cases hread : ofJson f.toJson with
  | error refusal => exact ⟨refusal, rfl⟩
  | ok g => exact absurd h (not_mem_operators_of_ofJson f hread)

theorem readsAs_of_reader {f : Filter} {levels : Nat} {document : Json.Document}
    (h : reader levels document = .ok f) : document.ReadsAs levels f.toJson := by
  obtain ⟨v, hv, hf⟩ := bind_eq_ok_iff.1 h
  obtain ⟨unsorted, hunsorted, hsorted⟩ := map_eq_ok_iff.1 hv
  refine ⟨unsorted, ?_, ?_⟩
  · unfold Json.Reader.json at hunsorted
    split at hunsorted
    · next hread =>
      cases hunsorted
      exact hread
    · cases hunsorted
  · rw [hsorted, toJson_of_ofJson hf]

/-- Only the document of one comparison is read as it. -/
theorem eq_ofJson_of_readsAs {document : Json.Document} {levels : Nat}
    {operator tag value : String}
    (h : document.ReadsAs levels (Filter.and [.compare operator tag value]).toJson) :
    document = .ofJson (Filter.and [.compare operator tag value]).toJson := by
  obtain ⟨_, _, rfl, houter⟩ := h.exists_items
  obtain ⟨_, _, hand, hclauses, rfl⟩ := List.forall₂_cons_right_iff.1 houter
  obtain ⟨_, _, hclause, hend, rfl⟩ := List.forall₂_cons_right_iff.1 hclauses
  cases hend
  obtain ⟨_, _, rfl, hinner⟩ := hclause.exists_items
  obtain ⟨_, _, hoperator, htexts, rfl⟩ := List.forall₂_cons_right_iff.1 hinner
  obtain ⟨_, _, htag, hlast, rfl⟩ := List.forall₂_cons_right_iff.1 htexts
  obtain ⟨_, _, hvalue, hend, rfl⟩ := List.forall₂_cons_right_iff.1 hlast
  cases hend
  rw [hand.eq_string, hoperator.eq_string, htag.eq_string, hvalue.eq_string]
  rfl

/-- Filters and their values determine each other. Whatever is read as a filter is the value of the
filter, and a filter is read from its value, with any other operators than the name of the
conjunction, and from its text, within 127 levels. -/
theorem ofJson_toJson_exact :
    (∀ (v : Json) (f : Filter), ofJson v = .ok f → f.toJson = v) ∧
      (∀ f : Filter, "and" ∉ f.operators → ofJson f.toJson = .ok f) ∧
      (∀ f : Filter, "and" ∈ f.operators → ∃ refusal, ofJson f.toJson = .error refusal) ∧
      (∀ f : Filter, f.toJson.depth ≤ 127 → reader.run f.toJson.text = ofJson f.toJson) ∧
      (∀ f : Filter, 127 < f.toJson.depth → reader.run f.toJson.text = .error .malformed) ∧
      ∀ operator ∈ ["true", "key", "not", "q"], ∀ tag value,
        ofJson (compare operator tag value).toJson = .ok (compare operator tag value) := by
  have htext : ∀ f : Filter, reader.run f.toJson.text = reader 127 (.ofJson f.toJson) :=
    fun f => Json.Reader.run_text f.toJson reader
  refine ⟨fun v f => toJson_of_ofJson, ofJson_toJson, fun f => exists_refusal_of_mem_operators,
    fun f hdepth => ?_, fun f hdepth => ?_, fun operator hoperator tag value => ?_⟩
  · rw [htext, reader_ofJson_eq hdepth]
  · rw [htext, reader_ofJson_of_lt hdepth]
  · apply ofJson_toJson
    rw [operators, List.mem_singleton]
    rintro rfl
    exact absurd hoperator (by decide)

/-- A comparison with the name of a negation within a negation, and one with the name of the
conjunction within a conjunction. -/
theorem ofJson_toJson_not_exact :
    let negation : Filter := .not (.compare "not" "site" "lon")
    let conjunction : Filter := .and [.key "cpu", .compare "and" "host" "web1"]
    ofJson negation.toJson = .ok negation ∧ reader.run negation.toJson.text = .ok negation ∧
      ∃ refusal, ofJson conjunction.toJson = .error refusal := by
  intro negation conjunction
  obtain ⟨-, hread, hrefused, htext, -, -⟩ := ofJson_toJson_exact
  have hnegation := hread negation (by decide)
  exact ⟨hnegation, (htext negation (by decide)).trans hnegation, hrefused conjunction (by decide)⟩

end SeriesQuery.Filter
