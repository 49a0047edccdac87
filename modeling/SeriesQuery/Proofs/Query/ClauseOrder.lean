import SeriesQuery.Proofs.GroupBy.Order
import SeriesQuery.Proofs.Query.Coherence

/-!
The clauses of a query under a history of commands. They stay in order as long as every target that
takes the place of another one has its clauses in order, whether the commands succeed or not.
-/

namespace SeriesQuery

open GroupBy

namespace Command

variable {q q' : Query} {s : Session} {command : Command} {commands : List Command}

theorem committed_target {candidate : Target} (h : q.committed candidate = .ok q') :
    q'.target = candidate := by
  obtain ⟨_, _, hq'⟩ := bind_eq_ok_iff.1 h
  cases hq'
  rfl

theorem clause_of_bind {catalog : Catalog} {type : String} {params : Option (List String)}
    {part : Part} (h : catalog.bind (.clause type params) = .ok part) :
    catalog.contains none type = true ∧ part.record.type = type := by
  obtain ⟨d, hd, rfl⟩ := Catalog.binds_iff.1 h
  refine ⟨?_, rfl⟩
  have hget : catalog.get? none type = some d := hd
  rw [Catalog.contains, hget]
  rfl

/-- A command may take clauses away, give the clauses of another target, or place one clause. -/
theorem outcome_clauses (hout : command.outcome q = .ok q') :
    q'.target.groupBy.Sublist q.target.groupBy ∨
      (∃ target, command = .setTarget target ∧ q'.target.groupBy = target.groupBy) ∨
      ∃ text expression clause, command = .addGroupBy text ∧
        Expression.ofText text = .ok expression ∧
        q.catalog.contains none expression.name = true ∧ clause.type = expression.name ∧
        q'.target.groupBy = place clause q.target.groupBy := by
  cases command with
  | setTarget target =>
    right
    left
    exact ⟨target, rfl, by rw [committed_target hout]; rfl⟩
  | addGroupBy text =>
    obtain ⟨expression, hexpression, hout⟩ := bind_eq_ok_iff.1 hout
    obtain ⟨part, hpart, hout⟩ := bind_eq_ok_iff.1 hout
    obtain ⟨hcontains, htype⟩ := clause_of_bind hpart
    right
    right
    exact ⟨text, expression, part.record, rfl, hexpression, hcontains, htype,
      by rw [committed_target hout]; rfl⟩
  | removeGroupByPart index =>
    obtain ⟨_, _, hout⟩ := bind_eq_ok_iff.1 hout
    left
    rw [committed_target hout]
    exact q.target.removeClause_sublist index
  | removeSelect index =>
    obtain ⟨_, _, hout⟩ := bind_eq_ok_iff.1 hout
    split at hout <;> cases hout <;> exact .inl (.refl _)
  | addSelectPart pipeline category type position =>
    obtain ⟨_, _, hout⟩ := bind_eq_ok_iff.1 hout
    obtain ⟨_, _, hout⟩ := bind_eq_ok_iff.1 hout
    cases hout
    exact .inl (.refl _)
  | removeSelectPart pipeline part =>
    obtain ⟨_, _, hout⟩ := bind_eq_ok_iff.1 hout
    cases hout
    exact .inl (.refl _)
  | updateSelectParam pipeline part param value =>
    obtain ⟨_, _, hout⟩ := bind_eq_ok_iff.1 hout
    obtain ⟨_, _, hout⟩ := bind_eq_ok_iff.1 hout
    cases hout
    exact .inl (.refl _)
  | updateProjection =>
    obtain ⟨_, _, hout⟩ := bind_eq_ok_iff.1 hout
    cases hout
    exact .inl (.refl _)
  | _ =>
    cases hout
    exact .inl (.refl _)

theorem outcome_ordered (h : Ordered q.target.groupBy)
    (htargets : ∀ target, command = .setTarget target → Ordered target.groupBy)
    (hout : command.outcome q = .ok q') : Ordered q'.target.groupBy := by
  obtain hrest | ⟨target, hcommand, hclauses⟩ | ⟨_, _, clause, -, -, -, -, hclauses⟩ :=
    outcome_clauses hout
  · exact h.sublist hrest
  · rw [hclauses]
    exact htargets target hcommand
  · rw [hclauses]
    exact h.place clause

theorem outcome_fillLast (h : FillLast q.target.groupBy)
    (htargets : ∀ target, command = .setTarget target → FillLast target.groupBy)
    (hfunctions : ∀ text expression, command = .addGroupBy text →
      Expression.ofText text = .ok expression →
      q.catalog.contains none expression.name = true → HasPlace expression.name)
    (hout : command.outcome q = .ok q') : FillLast q'.target.groupBy := by
  obtain hrest | ⟨target, hcommand, hclauses⟩ |
    ⟨text, expression, clause, hcommand, hexpression, hcontains, htype, hclauses⟩ :=
      outcome_clauses hout
  · exact h.sublist hrest
  · rw [hclauses]
    exact htargets target hcommand
  · rw [hclauses]
    apply h.place
    rw [htype]
    exact hfunctions text expression hcommand hexpression hcontains

/-- At every point of a history, whatever of it fails, `time` is the first clause if it is there and
`fill` is there once at most. If no function is added but `time`, `tag` and `fill`, which are all
the functions of the standard catalog, `fill` is the last clause if it is there. -/
theorem performAll_clauses_ordered (hstart : Ordered s.query.target.groupBy)
    (htargets : ∀ target, .setTarget target ∈ commands → Ordered target.groupBy) :
    (∀ n, Ordered (performAll s (commands.take n)).query.target.groupBy) ∧
      (FillLast s.query.target.groupBy →
        (∀ target, .setTarget target ∈ commands → FillLast target.groupBy) →
        (∀ text expression, .addGroupBy text ∈ commands →
          Expression.ofText text = .ok expression →
          s.query.catalog.contains none expression.name = true → HasPlace expression.name) →
        ∀ n, FillLast (performAll s (commands.take n)).query.target.groupBy) ∧
      ∀ type, Catalog.standard.contains none type = true → HasPlace type := by
  refine ⟨fun n => ?_, fun hlast hlasts hfunctions n => ?_, fun _ => Catalog.hasPlace_of_standard⟩
  · refine performAll_invariant (P := fun q => Ordered q.target.groupBy) ?_ hstart
    intro command hcommand _ _ h hout
    refine outcome_ordered h (fun target htarget => htargets target ?_) hout
    rw [← htarget]
    exact List.mem_of_mem_take hcommand
  · have hkept : FillLast (performAll s (commands.take n)).query.target.groupBy ∧
        (performAll s (commands.take n)).query.catalog = s.query.catalog := by
      refine performAll_invariant
        (P := fun q => FillLast q.target.groupBy ∧ q.catalog = s.query.catalog) ?_ ⟨hlast, rfl⟩
      intro command hcommand _ _ ⟨h, hcatalog⟩ hout
      have hmem := List.mem_of_mem_take hcommand
      refine ⟨outcome_fillLast h ?_ ?_ hout, (outcome_alike hout).catalog.trans hcatalog⟩
      · rintro target rfl
        exact hlasts target hmem
      · rintro text expression rfl hexpression hcontains
        rw [hcatalog] at hcontains
        exact hfunctions text expression hmem hexpression hcontains
    exact hkept.1

/-- A `fill` comes first and is replaced, a `tag` and a `time` find their places in front of it, and
another target takes the place of the first. -/
theorem performAll_fill_ordered :
    let q : Query := ⟨{ groupBy := [] }, .standard, ⟨.inert, .empty⟩, {}, ⟨[[]], []⟩⟩
    let commands := [addGroupBy "fill(null)", addGroupBy "tag(host)", addGroupBy "time(1m)",
      addGroupBy "fill(0)", removeGroupByPart 7, setTarget {}, addGroupBy "fill(none)"]
    let clauses (n : Nat) := (performAll ⟨q, {}⟩ (commands.take n)).query.target.groupBy
    (clauses 4).map (·.type) = ["time", "tag", "fill"] ∧
      ∀ n, Ordered (clauses n) ∧ FillLast (clauses n) := by
  intro q commands clauses
  have hnew : Ordered ({} : Target).groupBy ∧ FillLast ({} : Target).groupBy :=
    ⟨⟨List.pairwise_singleton _ _, List.pairwise_singleton _ _⟩, List.pairwise_singleton _ _⟩
  have htargets : ∀ target, .setTarget target ∈ commands → target = {} := by
    intro target h
    simpa [commands] using h
  obtain ⟨hordered, hlast, hstandard⟩ :=
    @performAll_clauses_ordered ⟨q, {}⟩ commands ⟨.nil, .nil⟩ fun target h => by
      rw [htargets target h]
      exact hnew.1
  have hfill : ∀ n, FillLast (clauses n) := by
    refine hlast .nil (fun target h => ?_) fun _ expression _ _ hcontains => ?_
    · rw [htargets target h]
      exact hnew.2
    · dsimp only [q] at hcontains
      exact hstandard expression.name hcontains
  exact ⟨by decide +kernel, fun n => ⟨hordered n, hfill n⟩⟩

end Command

end SeriesQuery
