import SeriesQuery.Filter.Basic
import SeriesQuery.Proofs.Result

/-!
What the filter of tag records is put together from: the key of the first record that asks for one,
and behind it one clause for each record that states a condition, in the order of the records. Every
record is looked at in one of these ways at most.
-/

namespace SeriesQuery.Filter

/-- The filters that hold together where a filter holds. -/
def conjuncts : Filter → List Filter
  | always => []
  | and children => children
  | single => [single]

def isKey : Filter → Bool
  | key _ => true
  | _ => false

def keyConjunct? (f : Filter) : Option Filter :=
  f.conjuncts.find? isKey

def otherConjuncts (f : Filter) : List Filter :=
  f.conjuncts.filter (!·.isKey)

/-- The value of a record is not the placeholder for a value that has not been chosen. -/
def IsUsable (placeholder : String) (tag : Tag) : Prop :=
  tag.value ≠ some placeholder

/-- A usable record asks for the series with a key. -/
structure AsksForKey (placeholder : String) (tag : Tag) (value : String) : Prop where
  usable : IsUsable placeholder tag
  key_eq : tag.key = "$key"
  value_eq : tag.value = some value

/-- The first record that asks for a key asks for this one. -/
def AsksFirst (placeholder : String) (tags : List Tag) (value : String) : Prop :=
  ∃ before tag after, tags = before ++ tag :: after ∧ AsksForKey placeholder tag value ∧
    ∀ earlier ∈ before, ∀ other, ¬ AsksForKey placeholder earlier other

/-- A usable record that asks for no key is an expression of its own or has a value to compare with.
-/
structure StatesClause (placeholder : String) (tag : Tag) : Prop where
  usable : IsUsable placeholder tag
  key_ne : tag.key ≠ "$key"
  states : tag.type = some "custom" ∨ tag.value ≠ none

/-- The clause that a record states. -/
inductive ClauseOf (tag : Tag) : Filter → Prop
  | expression (hcustom : tag.type = some "custom") : ClauseOf tag (.custom tag.key)
  | comparison {operator value : String} (hcustom : tag.type ≠ some "custom")
      (hvalue : tag.value = some value) (hoperator : tag.operator.getD "=" = operator)
      (hpositive : ∀ positive, operator ≠ "!" ++ positive) :
      ClauseOf tag (.compare operator tag.key value)
  | negation {positive value : String} (hcustom : tag.type ≠ some "custom")
      (hvalue : tag.value = some value) (hoperator : tag.operator = some ("!" ++ positive)) :
      ClauseOf tag (.not (.compare positive tag.key value))

instance (placeholder : String) : DecidablePred (StatesClause placeholder) := fun tag =>
  decidable_of_iff
    (tag.value ≠ some placeholder ∧ tag.key ≠ "$key" ∧
      (tag.type = some "custom" ∨ tag.value ≠ none))
    ⟨fun ⟨usable, key_ne, states⟩ => ⟨usable, key_ne, states⟩,
      fun ⟨usable, key_ne, states⟩ => ⟨usable, key_ne, states⟩⟩

variable {placeholder : String} {tag : Tag} {tags : List Tag} {clause : Filter}

theorem toList_negated (positive : String) : ("!" ++ positive).toList = '!' :: positive.toList := by
  rw [String.toList_append]
  rfl

/-- One leading mark of a negation goes, and no other. -/
theorem ofComparison_cases (operator key value : String) :
    (∃ positive, operator = "!" ++ positive ∧
      ofComparison operator key value = .not (.compare positive key value)) ∨
    (∀ positive, operator ≠ "!" ++ positive) ∧
      ofComparison operator key value = .compare operator key value := by
  unfold ofComparison
  split
  · next positive hoperator =>
    left
    refine ⟨.ofList positive, ?_, rfl⟩
    rw [← String.toList_inj, hoperator, toList_negated, String.toList_ofList]
  · next hpositive =>
    right
    refine ⟨?_, rfl⟩
    rintro positive rfl
    exact hpositive positive.toList (toList_negated positive)

theorem ofComparison_negated (positive key value : String) :
    ofComparison ("!" ++ positive) key value = .not (.compare positive key value) := by
  simp [ofComparison]

/-- The filter of a record is the clause that it states. -/
theorem ofTag_eq_some_iff : ofTag tag = some clause ↔ ClauseOf tag clause := by
  unfold ofTag Tag.isCustom Tag.customType
  constructor
  · intro h
    split at h
    · next hcustom =>
      cases h
      exact .expression (by simpa using hcustom)
    · next hcustom =>
      have hcustom : tag.type ≠ some "custom" := by simpa using hcustom
      obtain ⟨value, hvalue, rfl⟩ := Option.map_eq_some_iff.1 h
      obtain ⟨positive, hoperator, hclause⟩ | ⟨hpositive, hclause⟩ :=
        ofComparison_cases (tag.operator.getD "=") tag.key value <;> rw [hclause]
      · refine .negation hcustom hvalue ?_
        cases hwritten : tag.operator with
        | none =>
          rw [hwritten, Option.getD_none, ← String.toList_inj, toList_negated] at hoperator
          exact absurd (List.cons.inj hoperator).1 (by decide)
        | some operator =>
          rw [hwritten, Option.getD_some] at hoperator
          rw [hoperator]
      · exact .comparison hcustom hvalue rfl hpositive
  · intro h
    cases h with
    | expression hcustom => simp [hcustom]
    | @comparison operator value hcustom hvalue hoperator hpositive =>
      obtain ⟨positive, hnegated, -⟩ | ⟨-, hclause⟩ := ofComparison_cases operator tag.key value
      · exact absurd hnegated (hpositive positive)
      · simp [hcustom, hvalue, hoperator, hclause]
    | negation hcustom hvalue hoperator => simp [hcustom, hvalue, hoperator, ofComparison_negated]

/-- A record without a filter is no expression and has nothing to compare with. -/
theorem ofTag_eq_none_iff : ofTag tag = none ↔ tag.type ≠ some "custom" ∧ tag.value = none := by
  by_cases hcustom : tag.type = some "custom" <;>
    simp [ofTag, Tag.isCustom, Tag.customType, hcustom]

theorem forall₂_filterMap {α β : Type} {f : α → Option β} {xs : List α}
    (h : ∀ x ∈ xs, f x ≠ none) :
    List.Forall₂ (fun x y => f x = some y) xs (xs.filterMap f) := by
  induction xs with
  | nil => exact .nil
  | cons x xs ih =>
    obtain ⟨hx, hxs⟩ := List.forall_mem_cons.1 h
    obtain ⟨y, hy⟩ := Option.ne_none_iff_exists'.1 hx
    rw [List.filterMap_cons_some hy]
    exact .cons hy (ih hxs)

theorem clausesOf_usable (placeholder : String) (tags : List Tag) :
    clausesOf (tags.filter (·.value != some placeholder)) =
      (tags.filter (StatesClause placeholder ·)).filterMap ofTag := by
  simp only [clausesOf, List.filter_filter, List.filterMap_filter]
  refine List.filterMap_congr fun tag _ => ?_
  by_cases hlooked : tag.key ≠ "$key" ∧ tag.value ≠ some placeholder
  · by_cases hstates : tag.type = some "custom" ∨ tag.value ≠ none
    · have hclause : StatesClause placeholder tag := ⟨hlooked.2, hlooked.1, hstates⟩
      simp [Tag.isSeriesKey, Tag.seriesKey, hlooked, hclause]
    · have hnone : ofTag tag = none := ofTag_eq_none_iff.2 (by simpa using hstates)
      simp [hnone]
  · have hclause : ¬ StatesClause placeholder tag := fun h => hlooked ⟨h.key_ne, h.usable⟩
    have hpassed : ¬ (tag.key ≠ "$key" ∧ tag.value ≠ some placeholder) := hlooked
    simp [Tag.isSeriesKey, Tag.seriesKey, hclause, hpassed]

/-- The key that one record asks for. -/
def keyOf? (placeholder : String) (tag : Tag) : Option String :=
  if tag.value ≠ some placeholder ∧ tag.key = "$key" then tag.value else none

theorem keyOf?_eq_some_iff {value : String} :
    keyOf? placeholder tag = some value ↔ AsksForKey placeholder tag value := by
  unfold keyOf?
  rw [Option.ite_none_right_eq_some]
  exact ⟨fun ⟨⟨usable, key_eq⟩, value_eq⟩ => ⟨usable, key_eq, value_eq⟩,
    fun ⟨usable, key_eq, value_eq⟩ => ⟨⟨usable, key_eq⟩, value_eq⟩⟩

/-- The key of records is that of the first one that asks for a key. -/
theorem keyOf_usable (placeholder : String) (tags : List Tag) :
    keyOf (tags.filter (·.value != some placeholder)) = tags.findSome? (keyOf? placeholder) := by
  unfold keyOf
  rw [List.filter_filter]
  induction tags with
  | nil => rfl
  | cons tag rest ih =>
    rw [List.findSome?_cons, ← ih]
    by_cases hasks : tag.value ≠ some placeholder ∧ tag.key = "$key"
    · have htest : (tag.isSeriesKey && tag.value != some placeholder) = true := by
        simpa [Tag.isSeriesKey, Tag.seriesKey, and_comm] using hasks
      rw [List.filter_cons, if_pos htest, List.findSome?_cons, keyOf?, if_pos hasks]
    · have htest : ¬ (tag.isSeriesKey && tag.value != some placeholder) = true := by
        simpa [Tag.isSeriesKey, Tag.seriesKey, and_comm] using hasks
      rw [List.filter_cons, if_neg htest, keyOf?, if_neg hasks]

theorem keyOf_usable_eq_some_iff {value : String} :
    keyOf (tags.filter (·.value != some placeholder)) = some value ↔
      AsksFirst placeholder tags value := by
  simp only [keyOf_usable, List.findSome?_eq_some_iff, keyOf?_eq_some_iff,
    Option.eq_none_iff_forall_ne_some, ne_eq, AsksFirst]

theorem isKey_of_clauseOf (h : ClauseOf tag clause) : clause.isKey = false := by
  cases h <;> rfl

theorem forall₂_clauses (placeholder : String) (tags : List Tag) :
    List.Forall₂ ClauseOf (tags.filter (StatesClause placeholder ·))
      (clausesOf (tags.filter (·.value != some placeholder))) := by
  rw [clausesOf_usable]
  refine List.Forall₂.imp (fun _ _ => ofTag_eq_some_iff.1)
    (forall₂_filterMap fun tag htag hnone => ?_)
  obtain ⟨hcustom, hvalue⟩ := ofTag_eq_none_iff.1 hnone
  have hstates : StatesClause placeholder tag := by simpa using (List.mem_filter.1 htag).2
  rcases hstates.states with h | h
  · exact hcustom h
  · exact h hvalue

theorem isKey_of_mem_clausesOf
    (h : clause ∈ clausesOf (tags.filter (·.value != some placeholder))) :
    clause.isKey = false := by
  obtain ⟨tag, -, hclause⟩ := exists_rel_of_mem (forall₂_clauses placeholder tags) h
  exact isKey_of_clauseOf hclause

theorem conjuncts_conjunction (filters : List Filter) :
    (conjunction filters).conjuncts = filters := by
  cases filters <;> rfl

theorem conjunction_cases (filters : List Filter) :
    (filters = [] → conjunction filters = .always) ∧
      (filters ≠ [] → conjunction filters = .and filters) ∧ conjunction filters ≠ .and [] := by
  cases filters <;> simp [conjunction]

theorem clausesOf_append (first second : List Tag) :
    clausesOf (first ++ second) = clausesOf first ++ clausesOf second := by
  simp only [clausesOf, List.filter_append, List.filterMap_append]

variable (placeholder tags)

theorem keyConjunct?_ofTags : (ofTags placeholder tags).keyConjunct? =
    (tags.findSome? (keyOf? placeholder)).map .key := by
  rw [keyConjunct?, ofTags, conjuncts_conjunction, keyOf_usable]
  cases tags.findSome? (keyOf? placeholder) with
  | some value => rfl
  | none =>
    rw [Option.map_none, List.find?_eq_none]
    intro clause hclause
    simp [isKey_of_mem_clausesOf hclause]

theorem otherConjuncts_ofTags : (ofTags placeholder tags).otherConjuncts =
    clausesOf (tags.filter (·.value != some placeholder)) := by
  have hkeys : ∀ filter ∈ (keyOf (tags.filter (·.value != some placeholder))).toList.map key,
      ¬ (!filter.isKey) = true := by
    intro filter hfilter
    obtain ⟨value, -, rfl⟩ := List.mem_map.1 hfilter
    simp [isKey]
  have hclauses : ∀ clause ∈ clausesOf (tags.filter (·.value != some placeholder)),
      (!clause.isKey) = true := by
    intro clause hclause
    simp [isKey_of_mem_clausesOf hclause]
  rw [otherConjuncts, ofTags, conjuncts_conjunction, List.filter_append,
    List.filter_eq_nil_iff.2 hkeys, List.filter_eq_self.2 hclauses, List.nil_append]

/-- The filter of records holds the first key that they ask for, if there is one, and behind it the
clauses that they state, in order. It always holds if there are none of these, and else it is their
conjunction. Of the records of two lists the clauses follow one another, and the key is that of the
first list if it has one. -/
theorem ofTags_conjuncts :
    (∃ (key : Option String) (clauses : List Filter),
      (ofTags placeholder tags).conjuncts = key.toList.map .key ++ clauses ∧
      (∀ value, key = some value ↔ AsksFirst placeholder tags value) ∧
      List.Forall₂ ClauseOf (tags.filter (StatesClause placeholder ·)) clauses ∧
      ∀ clause ∈ clauses, clause.isKey = false) ∧
    ((ofTags placeholder tags).conjuncts = [] → ofTags placeholder tags = .always) ∧
    ((ofTags placeholder tags).conjuncts ≠ [] →
      ofTags placeholder tags = .and (ofTags placeholder tags).conjuncts) ∧
    ofTags placeholder tags ≠ .and [] ∧
    ∀ others : List Tag,
      (ofTags placeholder (tags ++ others)).otherConjuncts =
        (ofTags placeholder tags).otherConjuncts ++ (ofTags placeholder others).otherConjuncts ∧
      (ofTags placeholder (tags ++ others)).keyConjunct? =
        (ofTags placeholder tags).keyConjunct?.or (ofTags placeholder others).keyConjunct? := by
  have hconjuncts : (ofTags placeholder tags).conjuncts =
      (keyOf (tags.filter (·.value != some placeholder))).toList.map .key ++
        clausesOf (tags.filter (·.value != some placeholder)) := by
    rw [ofTags, conjuncts_conjunction]
  obtain ⟨hnone, hsome, hne⟩ := conjunction_cases (ofTags placeholder tags).conjuncts
  rw [hconjuncts, ← ofTags] at hnone hsome hne
  refine ⟨⟨_, _, hconjuncts, fun value => keyOf_usable_eq_some_iff,
    forall₂_clauses placeholder tags, fun _ => isKey_of_mem_clausesOf⟩, ?_, ?_, hne,
    fun others => ⟨?_, ?_⟩⟩
  · rw [hconjuncts]
    exact hnone
  · rw [hconjuncts]
    exact hsome
  · simp only [otherConjuncts_ofTags, List.filter_append, clausesOf_append]
  · simp only [keyConjunct?_ofTags, List.findSome?_append, Option.map_or]

end SeriesQuery.Filter
