import SeriesQuery.Proofs.GroupBy.Order
import SeriesQuery.Proofs.Query.Coherence

/-!
Taking a clause away from clauses in any order. The records that stay are bound already, so that
every clause can be taken away, and the parts that stay are those of the records that stay.
-/

namespace SeriesQuery

theorem forall₂_eraseIdx {α β : Type} {R : α → β → Prop} {xs : List α} {ys : List β}
    (h : List.Forall₂ R xs ys) (index : Nat) :
    List.Forall₂ R (xs.eraseIdx index) (ys.eraseIdx index) := by
  rw [List.eraseIdx_eq_take_drop_succ, List.eraseIdx_eq_take_drop_succ]
  exact List.rel_append (List.forall₂_take _ h) (List.forall₂_drop _ h)

namespace Query

def withoutClause (q : Query) (index : Nat) : Query :=
  { q with
    target := { q.target with groupBy := q.target.groupBy.eraseIdx index }
    projection := { q.projection with groupBy := q.projection.groupBy.eraseIdx index } }

/-- The query without a clause, without `fill` and without parts that work on every series for
itself. -/
def withoutWindow (q : Query) (index : Nat) : Query :=
  { q with
    target := { q.target with
      groupBy := (q.target.groupBy.eraseIdx index).filter (·.type != "fill")
      select := q.target.select.map (·.filter (·.scope != .known .forEach)) }
    projection :=
      { groupBy := (q.projection.groupBy.eraseIdx index).filter (·.definition.type != "fill")
        select := q.projection.select.map (·.filter (·.definition.category != some .forEach)) } }

/-- What is left of a query when a clause is taken away, for a clause of this type. -/
def withoutDependents (q : Query) (index : Nat) (type : String) : Query :=
  if type = "time" then q.withoutWindow index else q.withoutClause index

variable {q : Query} {candidate : Target} {index : Nat} {clause : SavedPart}

theorem committed_of_binds (projection : Projection)
    (hselect : List.Forall₂ (List.Forall₂ q.catalog.Binds) candidate.select projection.select)
    (hgroupBy : List.Forall₂ q.catalog.Binds candidate.groupBy projection.groupBy) :
    q.committed candidate = .ok { q with target := candidate, projection } :=
  bind_eq_ok_iff.2 ⟨projection, Projection.bind_eq_ok_iff.2 ⟨hselect, hgroupBy⟩, rfl⟩

theorem Coherent.committed_withoutClause (h : q.Coherent) (index : Nat) :
    q.committed (q.withoutClause index).target = .ok (q.withoutClause index) :=
  committed_of_binds (q.withoutClause index).projection h.select_binds
    (forall₂_eraseIdx h.groupBy_binds index)

theorem Coherent.committed_withoutWindow (h : q.Coherent) (index : Nat) :
    q.committed (q.withoutWindow index).target = .ok (q.withoutWindow index) := by
  refine committed_of_binds (q.withoutWindow index).projection ?_ ?_
  · refine List.rel_map (fun records parts hparts => ?_) h.select_binds
    refine List.rel_filter (fun saved part hbinds => ?_) hparts
    cases hcategory : part.definition.category <;>
      simp [hbinds.key.2, hcategory, Scope.ofCategory]
  · refine List.rel_filter (fun saved part hbinds => ?_) (forall₂_eraseIdx h.groupBy_binds index)
    simp [hbinds.key.1]

theorem removeClause_eq (hclause : q.target.groupBy[index]? = some clause) :
    q.target.removeClause index = (q.withoutDependents index clause.type).target := by
  unfold Target.removeClause withoutDependents SavedPart.timeType
  rw [hclause]
  by_cases htime : clause.type = "time"
  · rw [if_pos htime]
    exact if_pos htime
  · rw [if_neg htime]
    exact if_neg htime

theorem Coherent.committed_withoutDependents (h : q.Coherent) (index : Nat) (type : String) :
    q.committed (q.withoutDependents index type).target = .ok (q.withoutDependents index type) := by
  unfold withoutDependents
  split
  · exact h.committed_withoutWindow index
  · exact h.committed_withoutClause index

end Query

namespace Command

variable {q : Query} {index : Nat} {clause : SavedPart}

/-- Every clause that is there can be taken away. -/
theorem outcome_removeGroupByPart (h : q.Coherent)
    (hclause : q.target.groupBy[index]? = some clause) :
    (removeGroupByPart index).outcome q = .ok (q.withoutDependents index clause.type) := by
  obtain ⟨hindex, -⟩ := List.getElem?_eq_some_iff.1 hclause
  refine bind_eq_ok_iff.2 ⟨(), Query.checkIndex_eq_ok_iff.2 hindex, ?_⟩
  rw [Query.removeClause_eq hclause]
  exact h.committed_withoutDependents index clause.type

theorem lt_of_outcome_removeGroupByPart {q' : Query}
    (hout : (removeGroupByPart index).outcome q = .ok q') : index < q.target.groupBy.length := by
  obtain ⟨_, hindex, -⟩ := bind_eq_ok_iff.1 hout
  exact Query.checkIndex_eq_ok_iff.1 hindex

/-- After any history, a clause is taken away exactly if its index is in range. Any other clause
than `time` goes alone. With a `time` clause go all `fill` clauses and all parts of the pipelines
that work on every series for itself, other `time` clauses and emptied pipelines stay, and the parts
are again those of the records. -/
theorem performAll_removeGroupByPart {catalog : Catalog} {context : Template.Context}
    {settings : Settings} {target : Target} {m : Metrics}
    (h : ((Query.create catalog context settings target).eval m).1 = .ok q)
    (commands : List Command) (index : Nat) :
    let s := performAll ⟨q, ((Query.create catalog context settings target).eval m).2⟩ commands
    let removed := (removeGroupByPart index).perform s
    (removed.1 = .ok () ↔ index < s.query.target.groupBy.length) ∧
      (∀ clause, s.query.target.groupBy[index]? = some clause →
        removed.2.query =
          if clause.type = "time" then s.query.withoutWindow index
          else s.query.withoutClause index) ∧
      ∀ m', ((Projection.ofTarget catalog removed.2.query.target).eval m').1 =
        .ok removed.2.query.projection := by
  intro s removed
  obtain ⟨hcoherent, hs⟩ : s.query.Coherent ∧ s.query.catalog = catalog :=
    coherent_of_create h _ commands
  refine ⟨⟨fun hok => ?_, fun hindex => ?_⟩, fun clause hclause => ?_, fun m' => ?_⟩
  · obtain ⟨q', hout⟩ := exists_outcome_of_perform hok
    exact lt_of_outcome_removeGroupByPart hout
  · exact (perform_of_outcome
      (outcome_removeGroupByPart hcoherent (List.getElem?_eq_getElem hindex))).1
  · exact (perform_of_outcome (outcome_removeGroupByPart hcoherent hclause)).2
  · obtain ⟨hremoved, hsame⟩ :
        removed.2.query.Coherent ∧ removed.2.query.catalog = s.query.catalog :=
      performAll_coherent hcoherent [removeGroupByPart index]
    rw [Projection.gives_ofTarget, ← hs, ← hsame]
    exact hremoved.projection_eq

/-- The second of two `time` clauses is taken away from clauses with a `fill` at either end. -/
theorem removeGroupByPart_time_unordered :
    let clauses : List SavedPart := [.clause "fill" (some ["0"]), .clause "time" (some ["5m"]),
      .clause "tag" none, .clause "time" none, .clause "fill" (some [])]
    let sum : SavedPart := .select .collapse "sum"
    let pipelines : List (List SavedPart) :=
      [[.select .forEach "average", sum], [.select .forEach "max"]]
    let target : Target := { groupBy := clauses, select := pipelines }
    let create := Query.create .standard ⟨.inert, .empty⟩ {} target
    ∃ q, (create.eval {}).1 = .ok q ∧
      let removed := (removeGroupByPart 3).perform ⟨q, (create.eval {}).2⟩
      let kept : List SavedPart := [.clause "time" (some ["5m"]), .clause "tag" none]
      removed.1 = .ok () ∧
      removed.2.query.target = { groupBy := kept, select := [[sum], []] } := by
  intro clauses sum pipelines target create
  obtain ⟨q, hq⟩ : ∃ q, (create.eval {}).1 = .ok q := exists_eq_ok_of_isOk (by decide +kernel)
  have htarget : q.target = target := by
    rw [Query.gives_create] at hq
    exact Query.created_target hq
  have hclause : q.target.groupBy[3]? = some (.clause "time" none) := by
    rw [htarget]
    rfl
  obtain ⟨hindex, -⟩ := List.getElem?_eq_some_iff.1 hclause
  obtain ⟨hok, hremoved, -⟩ := performAll_removeGroupByPart hq [] 3
  refine ⟨q, hq, hok.2 hindex, ?_⟩
  calc
    _ = (q.withoutWindow 3).target := congrArg Query.target (hremoved _ hclause)
    _ = _ := by
      unfold Query.withoutWindow
      rw [htarget]
      rfl

end Command

end SeriesQuery
