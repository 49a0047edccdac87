import Mathlib.Data.List.InsertIdx
import SeriesQuery.Proofs.GroupBy.Order
import SeriesQuery.Proofs.Query.Coherence

/-!
Adding a clause to clauses in any order. A query takes every clause of a registered function, since
the clauses that it has already are bound, and the clauses that stay are those before and behind the
new one.
-/

namespace SeriesQuery

namespace GroupBy

/-- The clauses that stay when one of this type is added; `time` and `fill` replace those of their
own type. -/
def kept (type : String) (clauses : List SavedPart) : List SavedPart :=
  clauses.filter fun old => old.type ≠ type ∨ type ≠ "time" ∧ type ≠ "fill"

/-- The place of a new clause among those that stay: in front for `time`, before a `fill` at the end
for `tag`, and else at the end. -/
inductive Position (type : String) (stay : List SavedPart) : Nat → Prop
  | front (htime : type = "time") : Position type stay 0
  | beforeFill {before : List SavedPart} {fill : SavedPart} (htag : type = "tag")
      (hstay : stay = before ++ [fill]) (hfill : fill.type = "fill") :
      Position type stay before.length
  | last (htime : type ≠ "time")
      (hbefore : type = "tag" → ∀ before last, stay = before ++ [last] → last.type ≠ "fill") :
      Position type stay stay.length

variable {clause : SavedPart} {clauses : List SavedPart} {type : String}

theorem kept_of_replaces (h : type = "time" ∨ type = "fill") :
    kept type clauses = without type clauses := by
  refine List.filter_congr fun old _ => ?_
  have hreplaces : ¬ (type ≠ "time" ∧ type ≠ "fill") := by
    rcases h with rfl | rfl <;> decide
  by_cases hold : old.type = type <;> simp [hold, hreplaces]

theorem kept_of_not_replaces (htime : type ≠ "time") (hfill : type ≠ "fill") :
    kept type clauses = clauses := by
  simp [kept, htime, hfill]

theorem insertIdx_length_append (before after : List SavedPart) (clause : SavedPart) :
    (before ++ after).insertIdx before.length clause = before ++ clause :: after := by
  induction before with
  | nil => rfl
  | cons first before ih =>
    rw [List.cons_append, List.length_cons, List.insertIdx_succ_cons, ih, List.cons_append]

theorem exists_position (clause : SavedPart) (clauses : List SavedPart) :
    ∃ position, Position clause.type (kept clause.type clauses) position ∧
      place clause clauses = (kept clause.type clauses).insertIdx position clause := by
  obtain ⟨htime, hplace⟩ | ⟨hfill, hplace⟩ | ⟨htag, before, fill, rfl, hfill, hplace⟩ |
    ⟨htime, hfill, hends, hplace⟩ := place_cases clause clauses <;> rw [hplace]
  · refine ⟨0, .front htime, ?_⟩
    rw [kept_of_replaces (.inl htime), List.insertIdx_zero, htime]
  · have htime : clause.type ≠ "time" ∧ clause.type ≠ "tag" := by
      rw [hfill]
      decide
    refine ⟨_, .last htime.1 fun htag => absurd htag htime.2, ?_⟩
    rw [kept_of_replaces (.inr hfill), List.insertIdx_length_self, hfill]
  · have hreplaces : clause.type ≠ "time" ∧ clause.type ≠ "fill" := by
      rw [htag]
      decide
    rw [kept_of_not_replaces hreplaces.1 hreplaces.2]
    exact ⟨_, .beforeFill htag rfl hfill, (insertIdx_length_append before [fill] clause).symm⟩
  · rw [kept_of_not_replaces htime hfill]
    refine ⟨_, .last htime fun htag before last hclauses hlast => ?_,
      by rw [List.insertIdx_length_self]⟩
    exact hends htag (endsWith_iff.2 ⟨before, last, hclauses, hlast⟩)

theorem mem_of_mem_place {other : SavedPart} (h : other ∈ place clause clauses) :
    other = clause ∨ other ∈ clauses := by
  obtain ⟨position, -, hplace⟩ := exists_position clause clauses
  rw [hplace] at h
  rcases List.eq_or_mem_of_mem_insertIdx h with hnew | hold
  · exact .inl hnew
  · exact .inr (List.mem_of_mem_filter hold)

def Expression.record (e : Expression) (d : Definition) : SavedPart :=
  .clause e.name (some (if e.argument = "" then d.defaultParams else [e.argument]))

theorem Expression.record_bind (e : Expression) (d : Definition) :
    (Part.bind d (.clause e.name e.params)).record = e.record d := by
  unfold Part.bind Expression.params Expression.record SavedPart.clause
  by_cases hargument : e.argument = "" <;> simp [hargument]

end GroupBy

namespace Command

open GroupBy

variable {q : Query} {text : String} {e : Expression} {d : Definition}

theorem exists_committed (h : q.Coherent) {clause : SavedPart} {part : Part}
    (hclause : q.catalog.bind clause = .ok part) :
    ∃ q', q.committed (q.target.addClause clause) = .ok q' ∧
      q'.target = q.target.addClause clause := by
  have hbound : ∀ saved ∈ place clause q.target.groupBy,
      ∃ part, q.catalog.bind saved = .ok part := by
    intro saved hsaved
    rcases mem_of_mem_place hsaved with rfl | hold
    · exact ⟨part, hclause⟩
    · obtain ⟨part, -, hbinds⟩ := exists_rel_of_mem h.groupBy_binds.flip hold
      exact ⟨part, hbinds⟩
  obtain ⟨parts, hparts⟩ := exists_mapM_eq_ok hbound
  have hbind : Projection.bind q.catalog (q.target.addClause clause) =
      .ok ⟨q.projection.select, parts⟩ :=
    Projection.bind_eq_ok_iff.2 ⟨h.select_binds, mapM_eq_ok_iff.1 hparts⟩
  exact ⟨_, bind_eq_ok_iff.2 ⟨_, hbind, rfl⟩, rfl⟩

/-- An expression of a registered function is taken, whatever clauses there are. -/
theorem outcome_addGroupBy (h : q.Coherent) (htext : Expression.ofText text = .ok e)
    (hd : q.catalog.get? none e.name = some d) :
    ∃ q', (addGroupBy text).outcome q = .ok q' ∧ q'.target = q.target.addClause (e.record d) := by
  have hbind : q.catalog.bind (.clause e.name e.params) = .ok (.bind d (.clause e.name e.params)) :=
    Catalog.binds_iff.2 ⟨d, hd, rfl⟩
  have hclause : q.catalog.bind (e.record d) = .ok (.bind d (e.record d)) :=
    Catalog.binds_iff.2 ⟨d, hd, rfl⟩
  obtain ⟨q', hcommitted, htarget⟩ := exists_committed h hclause
  refine ⟨q', ?_, htarget⟩
  rw [← e.record_bind d] at hcommitted
  exact bind_eq_ok_iff.2 ⟨e, htext, bind_eq_ok_iff.2 ⟨_, hbind, hcommitted⟩⟩

theorem exists_of_outcome_addGroupBy {q' : Query} (hout : (addGroupBy text).outcome q = .ok q') :
    ∃ e d, Expression.ofText text = .ok e ∧ q.catalog.get? none e.name = some d := by
  obtain ⟨e, htext, hout⟩ := bind_eq_ok_iff.1 hout
  obtain ⟨part, hpart, -⟩ := bind_eq_ok_iff.1 hout
  obtain ⟨d, hd, -⟩ := Catalog.binds_iff.1 hpart
  exact ⟨e, d, htext, hd⟩

/-- After any history, a clause is added exactly if its expression names a registered function,
whatever clauses there are and in whatever order. The record of the new clause holds the argument,
or the parameters of the definition if the argument is empty. It stands at its position among the
old records, of which only those that it replaces are gone, and nothing else of the target changes.
-/
theorem performAll_addGroupBy {catalog : Catalog} {context : Template.Context}
    {settings : Settings} {target : Target} {m : Metrics}
    (h : ((Query.create catalog context settings target).eval m).1 = .ok q)
    (commands : List Command) (text : String) :
    let s := performAll ⟨q, ((Query.create catalog context settings target).eval m).2⟩ commands
    let added := (addGroupBy text).perform s
    (added.1 = .ok () ↔
      ∃ e, Expression.ofText text = .ok e ∧ catalog.contains none e.name = true) ∧
    ∀ e d, Expression.ofText text = .ok e → catalog.get? none e.name = some d →
      ∃ position, Position e.name (kept e.name s.query.target.groupBy) position ∧
        added.2.query.target = { s.query.target with
          groupBy := (kept e.name s.query.target.groupBy).insertIdx position (e.record d) } := by
  intro s added
  rw [Query.gives_create] at h
  obtain ⟨hcoherent, hcatalog⟩ : s.query.Coherent ∧ s.query.catalog = q.catalog :=
    performAll_coherent (Query.created_coherent h) commands
  have hs : s.query.catalog = catalog := hcatalog.trans (Query.created_configuration h).1
  have hadded : ∀ e d, Expression.ofText text = .ok e → catalog.get? none e.name = some d →
      added.1 = .ok () ∧ added.2.query.target = s.query.target.addClause (e.record d) := by
    intro e d htext hd
    obtain ⟨q', hout, htarget⟩ := outcome_addGroupBy hcoherent htext (hs.symm ▸ hd)
    simp only [added, perform_fst, perform_query, hout]
    exact ⟨rfl, htarget⟩
  refine ⟨⟨fun hok => ?_, ?_⟩, fun e d htext hd => ?_⟩
  · simp only [added, perform_fst] at hok
    obtain ⟨q', hout, -⟩ := map_eq_ok_iff.1 hok
    obtain ⟨e, d, htext, hd⟩ := exists_of_outcome_addGroupBy hout
    rw [hs] at hd
    exact ⟨e, htext, by rw [Catalog.contains, hd]; rfl⟩
  · rintro ⟨e, htext, hcontains⟩
    obtain ⟨d, hd⟩ := Option.isSome_iff_exists.1 hcontains
    exact (hadded e d htext hd).1
  · obtain ⟨position, hposition, hplace⟩ := exists_position (e.record d) s.query.target.groupBy
    refine ⟨position, hposition, ?_⟩
    rw [(hadded e d htext hd).2, Target.addClause, hplace]
    rfl

/-- A tag goes before the last of the clauses of a saved target, which are in no order. -/
theorem addGroupBy_tag_unordered :
    let clauses : List SavedPart := [.clause "fill" (some ["0"]), .clause "time" (some ["5m"]),
      .clause "tag" none, .clause "time" none, .clause "fill" (some [])]
    let create := Query.create .standard ⟨.inert, .empty⟩ {} { groupBy := clauses }
    ∃ q, (create.eval {}).1 = .ok q ∧
      ((addGroupBy "tag(site)").perform ⟨q, (create.eval {}).2⟩).1 = .ok () ∧
      ((addGroupBy "tag(site)").perform ⟨q, (create.eval {}).2⟩).2.query.target.groupBy =
        clauses.insertIdx 4 (.clause "tag" (some ["site"])) := by
  intro clauses create
  obtain ⟨q, hq⟩ : ∃ q, (create.eval {}).1 = .ok q := exists_eq_ok_of_isOk (by decide +kernel)
  have htarget : q.target.groupBy = clauses := by
    rw [Query.gives_create] at hq
    obtain ⟨_, -, hq⟩ := bind_eq_ok_iff.1 hq
    cases hq
    rfl
  have htext : Expression.ofText "tag(site)" = .ok ⟨"tag", "site"⟩ :=
    eq_ok_of_toOption (by decide +kernel)
  have hcontains : Catalog.standard.contains none "tag" = true := by decide +kernel
  obtain ⟨d, hd⟩ := Option.isSome_iff_exists.1 hcontains
  obtain ⟨hok, hadded⟩ := performAll_addGroupBy hq [] "tag(site)"
  obtain ⟨position, hposition, hafter⟩ := hadded _ d htext hd
  have hstay : kept "tag" q.target.groupBy = clauses := by
    rw [htarget, kept_of_not_replaces (by decide) (by decide)]
  have hfour : position = 4 := by
    change Position "tag" (kept "tag" q.target.groupBy) position at hposition
    rw [hstay] at hposition
    cases hposition with
    | front htime => exact absurd htime (by decide)
    | beforeFill _ hlast _ =>
      have hlength := congrArg List.length hlast
      simpa [clauses] using hlength.symm
    | last _ hbefore =>
      exact absurd rfl (hbefore rfl (clauses.take 4) (.clause "fill" (some [])) rfl)
  refine ⟨q, hq, hok.2 ⟨_, htext, hcontains⟩, ?_⟩
  calc
    _ = (kept "tag" q.target.groupBy).insertIdx position (Expression.record ⟨"tag", "site"⟩ d) :=
      congrArg Target.groupBy hafter
    _ = _ := by
      rw [hstay, hfour]
      rfl

end Command

end SeriesQuery
