import SeriesQuery.Proofs.Filter.Coding

/-!
The filters of tag records. Their operators come from the records, they have at most three levels,
and a change of their texts leaves their constructors alone.
-/

namespace SeriesQuery.Filter

/-- The constructors of a filter without its texts. -/
def outline (f : Filter) : Filter :=
  f.mapText fun _ => ""

mutual

theorem outline_mapText (g : String → String) : ∀ f : Filter, (f.mapText g).outline = f.outline
  | always | key _ | custom _ | compare _ _ _ => rfl
  | and children => by
    have hchildren := mapTextChildren_mapTextChildren g children
    simp only [outline, mapText, hchildren]
  | not inner => by
    have hinner := outline_mapText g inner
    simp only [outline] at hinner
    simp only [outline, mapText, hinner]

theorem mapTextChildren_mapTextChildren (g : String → String) : ∀ children : List Filter,
    mapTextChildren (fun _ => "") (mapTextChildren g children) =
      mapTextChildren (fun _ => "") children
  | [] => rfl
  | child :: rest => by
    have hchild := outline_mapText g child
    have hrest := mapTextChildren_mapTextChildren g rest
    simp only [outline] at hchild
    simp only [mapTextChildren, hchild, hrest]

end

theorem exists_of_outline_eq {f : Filter} {operator tag value : String}
    (h : f.outline = (Filter.and [.compare operator tag value]).outline) :
    ∃ operator tag value, f = .and [.compare operator tag value] := by
  cases f with
  | and children =>
    simp only [outline, mapText, mapTextChildren, and.injEq] at h
    rcases children with _ | ⟨child, _ | ⟨next, rest⟩⟩
    · cases h
    · obtain ⟨hchild, -⟩ := List.cons.inj h
      cases child with
      | compare operator tag value => exact ⟨operator, tag, value, rfl⟩
      | _ => simp only [mapText, reduceCtorEq] at hchild
    · cases (List.cons.inj h).2
  | _ => simp only [outline, mapText, reduceCtorEq] at h

mutual

theorem operators_mapText (g : String → String) :
    ∀ f : Filter, (f.mapText g).operators = f.operators.map g
  | always | key _ | custom _ | compare _ _ _ => rfl
  | and children => childrenOperators_mapTextChildren g children
  | not inner => operators_mapText g inner

theorem childrenOperators_mapTextChildren (g : String → String) : ∀ children : List Filter,
    childrenOperators (mapTextChildren g children) = (childrenOperators children).map g
  | [] => rfl
  | child :: rest => by
    rw [mapTextChildren, childrenOperators, childrenOperators, operators_mapText g child,
      childrenOperators_mapTextChildren g rest, List.map_append]

end

variable {operator : String} {tag : Tag}

theorem mem_childrenOperators {children : List Filter} :
    operator ∈ childrenOperators children ↔ ∃ child ∈ children, operator ∈ child.operators := by
  induction children with
  | nil => simp [childrenOperators]
  | cons child rest ih => simp [childrenOperators, ih]

/-- An operator without the mark of a negation. -/
def IsOperatorOf (operator written : String) : Prop :=
  written.toList = operator.toList ∨ written.toList = '!' :: operator.toList

theorem isOperatorOf_of_mem_ofComparison {written key value : String}
    (h : operator ∈ (ofComparison written key value).operators) :
    IsOperatorOf operator written := by
  unfold ofComparison at h
  split at h
  · next positive hwritten =>
    simp only [operators, List.mem_singleton] at h
    right
    rw [hwritten, h, String.toList_ofList]
  · simp only [operators, List.mem_singleton] at h
    left
    rw [h]

theorem mem_operators_ofComparison_iff {written key value : String}
    (hpositive : ∀ rest, operator.toList ≠ '!' :: rest) :
    operator ∈ (ofComparison written key value).operators ↔ IsOperatorOf operator written := by
  refine ⟨isOperatorOf_of_mem_ofComparison, fun h => ?_⟩
  unfold ofComparison
  split
  · next positive hwritten =>
    rcases h with h | h
    · exact absurd (h.symm.trans hwritten) (hpositive positive)
    · have hpositive : operator = .ofList positive := by
        rw [hwritten, List.cons.injEq] at h
        rw [h.2, String.ofList_toList]
      simp [operators, hpositive]
  · next hnegative =>
    rcases h with h | h
    · simp [operators, String.toList_inj.1 h]
    · exact absurd h (hnegative _)

/-- The clauses of the records that are neither keys nor without a chosen value. -/
theorem mem_clausesOf_iff {placeholder : String} {tags : List Tag} {clause : Filter} :
    clause ∈ clausesOf (tags.filter (·.value != some placeholder)) ↔
      ∃ tag ∈ tags, tag.isSeriesKey = false ∧ tag.value ≠ some placeholder ∧
        ofTag tag = some clause := by
  simp [clausesOf, List.mem_filterMap, and_assoc]

/-- A filter of records is a conjunction of keys and of the filters of single records. -/
theorem exists_clauses (placeholder : String) (tags : List Tag) :
    ∃ clauses, ofTags placeholder tags = conjunction clauses ∧
      ∀ clause ∈ clauses,
        (∃ value, clause = .key value) ∨ ∃ tag ∈ tags, ofTag tag = some clause := by
  refine ⟨_, rfl, fun clause hclause => ?_⟩
  rcases List.mem_append.1 hclause with hkey | hclause
  · obtain ⟨value, _, rfl⟩ := List.mem_map.1 hkey
    exact .inl ⟨value, rfl⟩
  · obtain ⟨tag, hmem, -, -, hsome⟩ := mem_clausesOf_iff.1 hclause
    exact .inr ⟨tag, hmem, hsome⟩

theorem isOperatorOf_of_mem_ofTag {clause : Filter} (htag : ofTag tag = some clause)
    (h : operator ∈ clause.operators) : IsOperatorOf operator (tag.operator.getD "=") := by
  unfold ofTag at htag
  split at htag
  · cases htag
    simp [operators] at h
  · obtain ⟨value, _, rfl⟩ := Option.map_eq_some_iff.1 htag
    exact isOperatorOf_of_mem_ofComparison h

theorem mem_operators_conjunction {clauses : List Filter} :
    operator ∈ (conjunction clauses).operators ↔
      ∃ clause ∈ clauses, operator ∈ clause.operators := by
  have hconjunction : (conjunction clauses).operators = childrenOperators clauses := by
    cases clauses <;> rfl
  rw [hconjunction, mem_childrenOperators]

theorem mem_operators_ofTags_iff {placeholder : String} {tags : List Tag} :
    operator ∈ (ofTags placeholder tags).operators ↔
      ∃ tag ∈ tags, tag.isSeriesKey = false ∧ tag.value ≠ some placeholder ∧
        ∃ clause, ofTag tag = some clause ∧ operator ∈ clause.operators := by
  unfold ofTags
  rw [mem_operators_conjunction]
  constructor
  · rintro ⟨clause, hclause, hoperator⟩
    rcases List.mem_append.1 hclause with hkey | hclause
    · obtain ⟨value, _, rfl⟩ := List.mem_map.1 hkey
      cases hoperator
    · obtain ⟨tag, hmem, hkey, hvalue, hsome⟩ := mem_clausesOf_iff.1 hclause
      exact ⟨tag, hmem, hkey, hvalue, clause, hsome, hoperator⟩
  · rintro ⟨tag, hmem, hkey, hvalue, clause, hsome, hoperator⟩
    have hclause := mem_clausesOf_iff.2 ⟨tag, hmem, hkey, hvalue, hsome⟩
    exact ⟨clause, List.mem_append_right _ hclause, hoperator⟩

/-- The operators of the filter of records are those of the records. -/
theorem exists_of_mem_operators_ofTags {placeholder : String} {tags : List Tag}
    (h : operator ∈ (ofTags placeholder tags).operators) :
    ∃ tag ∈ tags, IsOperatorOf operator (tag.operator.getD "=") := by
  obtain ⟨tag, htag, _, _, clause, hsome, hoperator⟩ := mem_operators_ofTags_iff.1 h
  exact ⟨tag, htag, isOperatorOf_of_mem_ofTag hsome hoperator⟩

/-- A record that compares by the name of the conjunction, or by its negation, with a value that was
chosen. -/
def ComparesByAnd (placeholder : String) (tag : Tag) : Prop :=
  tag.isSeriesKey = false ∧ tag.isCustom = false ∧
    (∃ value, tag.value = some value ∧ value ≠ placeholder) ∧
    (tag.operator = some "and" ∨ tag.operator = some "!and")

theorem isOperatorOf_and_iff {written : String} :
    IsOperatorOf "and" written ↔ written = "and" ∨ written = "!and" := by
  have hnegation : '!' :: "and".toList = "!and".toList := by decide
  rw [IsOperatorOf, hnegation, String.toList_inj, String.toList_inj]

theorem and_mem_operators_ofTags_iff {placeholder : String} {tags : List Tag} :
    "and" ∈ (ofTags placeholder tags).operators ↔ ∃ tag ∈ tags, ComparesByAnd placeholder tag := by
  rw [mem_operators_ofTags_iff]
  refine exists_congr fun tag => and_congr_right fun _ => ⟨?_, ?_⟩
  · rintro ⟨hkey, hvalue, clause, hsome, hoperator⟩
    unfold ofTag at hsome
    split at hsome
    · cases hsome
      cases hoperator
    · next hcustom =>
      obtain ⟨value, hchosen, rfl⟩ := Option.map_eq_some_iff.1 hsome
      have hand := isOperatorOf_and_iff.1 (isOperatorOf_of_mem_ofComparison hoperator)
      refine ⟨hkey, by simpa using hcustom, ⟨value, hchosen, ?_⟩, ?_⟩
      · rintro rfl
        exact hvalue hchosen
      · cases hwritten : tag.operator with
        | none => simp [hwritten] at hand
        | some written => simpa [hwritten] using hand
  · rintro ⟨hkey, hcustom, ⟨value, hchosen, hne⟩, hand⟩
    refine ⟨hkey, by simp [hchosen, hne], ofComparison (tag.operator.getD "=") tag.key value,
      by simp [ofTag, hcustom, hchosen], ?_⟩
    have hpositive : ∀ rest, "and".toList ≠ '!' :: rest := fun rest h => by cases h
    rw [mem_operators_ofComparison_iff hpositive, isOperatorOf_and_iff]
    rcases hand with hand | hand <;> simp [hand]

theorem depth_ofTag_le {clause : Filter} (htag : ofTag tag = some clause) :
    clause.toJson.depth ≤ 2 := by
  unfold ofTag ofComparison at htag
  split at htag
  · cases htag
    simp [toJson, Json.depth, Json.itemDepth]
  · obtain ⟨value, _, rfl⟩ := Option.map_eq_some_iff.1 htag
    split <;> simp [toJson, Json.depth, Json.itemDepth]

/-- The filter of records lies within three levels. -/
theorem depth_ofTags_le (placeholder : String) (tags : List Tag) :
    (ofTags placeholder tags).toJson.depth ≤ 3 := by
  obtain ⟨clauses, hclauses, hfrom⟩ := exists_clauses placeholder tags
  rw [hclauses]
  cases clauses with
  | nil => simp [conjunction, toJson, Json.depth, Json.itemDepth]
  | cons first rest =>
    have hdepth : ∀ item ∈ childrenToJson (first :: rest), item.depth ≤ 2 := by
      intro item hitem
      rw [childrenToJson_eq_map] at hitem
      obtain ⟨clause, hclause, rfl⟩ := List.mem_map.1 hitem
      rcases hfrom clause hclause with ⟨value, rfl⟩ | ⟨tag, _, hsome⟩
      · simp [toJson, Json.depth, Json.itemDepth]
      · exact depth_ofTag_le hsome
    have hitems := Json.itemDepth_le hdepth
    have hand : conjunction (first :: rest) = .and (first :: rest) := rfl
    simp only [hand, toJson, Json.depth, Json.itemDepth]
    omega

end SeriesQuery.Filter
