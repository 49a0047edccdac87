import SeriesQuery.Catalog.Standard
import SeriesQuery.Proofs.Filter.Tags
import SeriesQuery.Proofs.Query.Outcome

/-!
The shape of a filter when its variables are replaced. Variables cannot change the shape of any
filter of tag records exactly when each of them is inserted as the body of a JSON string.
-/

namespace SeriesQuery

open Template (IsLiteral)
open Json (StringBody)

/-- The key and the operator of a record hold no placeholder, and the operator is not the name of
the conjunction, negated or not. -/
structure Tag.IsFixed (tag : Tag) : Prop where
  key : IsLiteral tag.key
  operator : ∀ operator ∈ tag.operator,
    IsLiteral operator ∧ operator ≠ "and" ∧ operator ≠ "!and"

theorem Tag.isFixed_compare (value : String) : (Tag.compare "host" "=" value).IsFixed := by
  have hkey : IsLiteral "host" := Template.isLiteral_of_opensNothing (by decide)
  have hoperator : IsLiteral "=" := Template.isLiteral_of_opensNothing (by decide)
  refine ⟨hkey, fun operator h => ?_⟩
  cases h
  exact ⟨hoperator, by decide, by decide⟩

namespace Filter

theorem IsOperatorOf.isLiteral {operator written : String} (h : IsOperatorOf operator written)
    (hwritten : IsLiteral written) : IsLiteral operator := by
  intro p hp
  apply hwritten p
  rcases h with h | h
  · rw [h]
    exact hp
  · rw [h, Template.segments_of_char rfl]
    exact List.mem_cons_of_mem _ hp

theorem IsOperatorOf.ne_and {operator written : String} (h : IsOperatorOf operator written)
    (hand : written ≠ "and") (hnand : written ≠ "!and") : operator ≠ "and" := by
  rintro rfl
  rcases h with h | h
  · exact hand (String.toList_injective h)
  · exact hnand (String.toList_injective h)

theorem IsOperatorOf.of_isFixed {operator : String} {tag : Tag}
    (h : IsOperatorOf operator (tag.operator.getD "=")) (htag : tag.IsFixed) :
    IsLiteral operator ∧ operator ≠ "and" := by
  cases hoperator : tag.operator with
  | none =>
    rw [hoperator, Option.getD_none] at h
    exact ⟨h.isLiteral (Template.isLiteral_of_opensNothing (by decide)),
      h.ne_and (by decide) (by decide)⟩
  | some written =>
    rw [hoperator, Option.getD_some] at h
    obtain ⟨hliteral, hand, hnand⟩ := htag.operator written hoperator
    exact ⟨h.isLiteral hliteral, h.ne_and hand hnand⟩

end Filter

namespace Query

variable {q : Query} {tags : List Tag}

/-- If insertions are bodies of strings, the filter is that of the records with other texts. -/
theorem builtFilter_of_insertsBodies (h : q.context.InsertsBodies)
    (htags : ∀ tag ∈ tags, tag.IsFixed) :
    q.builtFilter tags = .ok ((q.plainFilter tags).mapText q.context.meaning) := by
  have hmapText := (q.plainFilter tags).mapText_toJson q.context.meaning_fixesWords
  have hdepth : ((q.plainFilter tags).mapText q.context.meaning).toJson.depth ≤
      Json.Reader.levelLimit := by
    rw [← hmapText, Json.depth_mapText]
    exact Nat.le_trans (Filter.depth_ofTags_le _ tags) (by decide)
  have hand : "and" ∉ ((q.plainFilter tags).mapText q.context.meaning).operators := by
    intro hmem
    rw [Filter.operators_mapText] at hmem
    obtain ⟨operator, hoperator, hmeaning⟩ := List.mem_map.1 hmem
    obtain ⟨tag, htag, hfrom⟩ := Filter.exists_of_mem_operators_ofTags hoperator
    obtain ⟨hliteral, hne⟩ := hfrom.of_isFixed (htags tag htag)
    rw [Template.Context.meaning_of_isLiteral hliteral] at hmeaning
    exact hne hmeaning
  unfold builtFilter resolved
  rw [Template.Context.throughJson_of_insertsBodies h (Filter.toJson_scannable _).spaced, hmapText,
    Filter.reader_ofJson hdepth hand]
  rfl

theorem plainFilter_compare {value : String} (h : value ≠ q.settings.defaults.placeholder) :
    q.plainFilter [Tag.compare "host" "=" value] = .and [.compare "=" "host" value] := by
  have husable : [Tag.compare "host" "=" value].filter
      (·.value != some q.settings.defaults.placeholder) = [Tag.compare "host" "=" value] := by
    apply List.filter_eq_self.2
    simpa [Tag.compare] using h
  have hcomparison : Filter.ofComparison "=" "host" value = .compare "=" "host" value := by
    simp [Filter.ofComparison]
  have hclause : Filter.ofTag (Tag.compare "host" "=" value) = some (.compare "=" "host" value) :=
    congrArg some hcomparison
  have hclauses : Filter.clausesOf [Tag.compare "host" "=" value] =
      [.compare "=" "host" value] := by
    have hkey : (Tag.compare "host" "=" value).isSeriesKey = false := rfl
    simp [Filter.clausesOf, hkey, hclause]
  simp only [plainFilter, Filter.ofTags, husable, hclauses]
  rfl

/-- If a record keeps the shape of its filter, its value is read from its own body. -/
theorem stringBody_of_builtFilter {value : String} {f : Filter} (hshipped : q.context.IsShipped)
    (hvalue : value ≠ q.settings.defaults.placeholder)
    (hbuilt : q.builtFilter [Tag.compare "host" "=" value] = .ok f)
    (hshape : f.outline = (q.plainFilter [Tag.compare "host" "=" value]).outline) :
    ∃ text : String,
      StringBody (Template.bodyWith (q.context.inserted none) value) text.toList := by
  unfold builtFilter resolved Template.Context.throughJson at hbuilt
  rw [plainFilter_compare hvalue] at hbuilt hshape
  obtain ⟨operator, key, found, rfl⟩ := Filter.exists_of_outline_eq hshape
  obtain ⟨document, rest, hread, hrest, hreader⟩ :=
    Json.Reader.exists_document_of_run (mapError_eq_ok_iff.1 hbuilt)
  have hspaced := (Filter.and [.compare "=" "host" value]).toJson_scannable.spaced
  rw [Template.Context.toList_replace_text hshipped _ hspaced] at hread
  rw [Filter.eq_ofJson_of_readsAs (Filter.readsAs_of_reader hreader)] at hread
  have hname : ∀ name : String, Template.OpensNothing name.toList →
      StringBody (Template.bodyWith (q.context.inserted none) name)
        (Template.insertAll Template.Placeholder.source name.toList) := by
    intro name h
    have hliteral := Template.isLiteral_of_opensNothing h
    exact Template.stringBody_bodyWith fun p hp => absurd hp (hliteral p)
  have hfirst := hname "and" (by decide)
  have hsecond := hname "=" (by decide)
  have hthird := hname "host" (by decide)
  exact ⟨found, Json.stringBody_of_readDocument hfirst hsecond hthird hread hrest⟩

theorem insertsBodies_of_builtFilter (hshipped : q.context.IsShipped)
    (h : ∀ tags, (∀ tag ∈ tags, tag.IsFixed) →
      ∃ f, q.builtFilter tags = .ok f ∧ f.outline = (q.plainFilter tags).outline) :
    q.context.InsertsBodies := by
  refine ⟨hshipped, fun p inserted hp hinserted => ?_⟩
  -- A letter before the placeholder makes sure that the value is not the one left out.
  obtain ⟨c, hplain, hc, hvalue⟩ : ∃ c, Json.IsPlain c ∧ (c ≠ '$' ∧ c ≠ '[') ∧
      String.ofList (c :: p.source) ≠ q.settings.defaults.placeholder := by
    by_cases hx : String.ofList ('x' :: p.source) = q.settings.defaults.placeholder
    · refine ⟨'y', by decide, by decide, ?_⟩
      rw [← hx]
      intro hxy
      cases String.ofList_injective hxy
    · exact ⟨'x', by decide, by decide, hx⟩
  obtain ⟨f, hbuilt, hshape⟩ := h [.compare "host" "=" (.ofList (c :: p.source))] fun tag htag => by
    cases List.mem_singleton.1 htag
    exact Tag.isFixed_compare _
  obtain ⟨text, hbody⟩ := stringBody_of_builtFilter hshipped hvalue hbuilt hshape
  have hfront : Template.Placeholder.atFront? (p.source ++ []) = some p := by
    rw [List.append_nil]
    exact hp
  have hsource := Template.segments_of_placeholder hfront
  have hsegments : Template.segments (c :: p.source) = [.char c, .placeholder p] := by
    have happend : Template.segments ([c] ++ p.source) = [c].map .char ++ _ :=
      Template.segments_append (by simpa [Template.OpensNothing] using hc) p.source
    rw [List.append_nil] at hsource
    rw [List.singleton_append, hsource] at happend
    exact happend
  have hbodyWith : Template.bodyWith (q.context.inserted none) (.ofList (c :: p.source)) =
      c :: inserted.toList := by
    rw [Template.bodyWith, String.toList_ofList, hsegments]
    simp [Template.Segment.body, Json.escaped_of_isPlain hplain,
      Template.Context.inserted_of_some hinserted]
  rw [hbodyWith] at hbody
  exact hbody.readString_tail hplain

/-- With a service of the library variables cannot change the shape of any filter of tag records,
exactly when each of them is inserted as the body of a JSON string. -/
theorem buildFilter_outline_iff (q : Query) (hshipped : q.context.IsShipped) :
    (∀ tags : List Tag, (∀ tag ∈ tags, tag.IsFixed) → ∀ m, ∃ f,
      ((q.buildFilter tags).eval m).1 = .ok f ∧ f.outline = (q.plainFilter tags).outline) ↔
        q.context.InsertsBodies := by
  constructor
  · intro h
    apply insertsBodies_of_builtFilter hshipped
    intro tags htags
    obtain ⟨f, hbuilt, hshape⟩ := h tags htags {}
    exact ⟨f, by rwa [gives_buildFilter] at hbuilt, hshape⟩
  · intro h tags htags m
    have hbuilt := gives_buildFilter q tags m
    rw [builtFilter_of_insertsBodies h htags] at hbuilt
    exact ⟨_, hbuilt, Filter.outline_mapText _ _⟩

/-- A plain value keeps the shape of every filter. -/
theorem buildFilter_outline_web1 :
    let q : Query :=
      ⟨{ groupBy := [] }, .standard, Template.Context.ofSingle "host" "web1", {}, ⟨[[]], []⟩⟩
    q.context.IsShipped ∧ ∀ tags : List Tag, (∀ tag ∈ tags, tag.IsFixed) → ∀ m, ∃ f,
      ((q.buildFilter tags).eval m).1 = .ok f ∧ f.outline = (q.plainFilter tags).outline := by
  intro q
  have hbodies : q.context.InsertsBodies :=
    Template.Context.insertsBodies_ofSingle (by decide) (by decide)
  exact ⟨trivial, (buildFilter_outline_iff q trivial).2 hbodies⟩

/-- The escapes of the format `regex` are no escapes of JSON, and a quote ends the string into which
it is inserted. -/
theorem buildFilter_outline_changes :
    let settled (value : String) : Query :=
      ⟨{ groupBy := [] }, .standard, ⟨.dashboard (.set .empty "host" (.ofValue (.single value))),
        .empty⟩, {}, ⟨[[]], []⟩⟩
    let escaped := Tag.compare "host" "=" "${host:regex}"
    let quoted := Tag.compare "host" "=" "$host"
    let q := settled "web1.example"
    let q' := settled "a\"],[\"=\",\"role\",\"b"
    (escaped.IsFixed ∧ ∀ f, ((q.buildFilter [escaped]).eval {}).1 ≠ .ok f) ∧
      (quoted.IsFixed ∧ ∃ f, ((q'.buildFilter [quoted]).eval {}).1 = .ok f ∧
        f.outline ≠ (q'.plainFilter [quoted]).outline) := by
  intro settled escaped quoted q q'
  have hrefused : (q.builtFilter [escaped]).isOk = false := by decide +kernel
  have hsplit : (q'.builtFilter [quoted]).toOption.map Filter.operators = some ["=", "="] := by
    decide +kernel
  have hplain : (q'.plainFilter [quoted]).operators = ["="] := by decide +kernel
  constructor
  · refine ⟨Tag.isFixed_compare _, fun f hf => ?_⟩
    rw [gives_buildFilter] at hf
    rw [hf] at hrefused
    cases hrefused
  · refine ⟨Tag.isFixed_compare _, ?_⟩
    cases hbuilt : q'.builtFilter [quoted] with
    | error e =>
      rw [hbuilt] at hsplit
      cases hsplit
    | ok f =>
      rw [hbuilt] at hsplit
      have hoperators : f.operators = ["=", "="] := Option.some.inj hsplit
      refine ⟨f, by rw [gives_buildFilter, hbuilt], fun hshape => ?_⟩
      have hlength := congrArg (fun f => f.operators.length) hshape
      simp only [Filter.outline, Filter.operators_mapText, List.length_map, hoperators,
        hplain] at hlength
      cases hlength

end Query

end SeriesQuery
