import Mathlib.Data.List.Basic
import SeriesQuery.Catalog.Standard
import SeriesQuery.GroupBy.Basic
import SeriesQuery.Proofs.Catalog.Binding

/-!
The order of group-by clauses: `time` stands first, and there is one `fill`, which stands last as
long as all other clauses have a place of their own. Placing a clause and taking clauses away keep
this order.
-/

namespace SeriesQuery

namespace GroupBy

open SavedPart

/-- No clause behind another one is `time`, and of two clauses at most one is `fill`. -/
structure Ordered (clauses : List SavedPart) : Prop where
  time_first : clauses.Pairwise fun _ later => later.type ≠ timeType
  fill_once :
    clauses.Pairwise fun earlier later => earlier.type ≠ fillType ∨ later.type ≠ fillType

/-- No clause in front of another one is `fill`. -/
def FillLast (clauses : List SavedPart) : Prop :=
  clauses.Pairwise fun earlier _ => earlier.type ≠ fillType

/-- The type of a clause that has a place of its own. -/
def HasPlace (type : String) : Prop :=
  type = timeType ∨ type = tagType ∨ type = fillType

variable {clause : SavedPart} {clauses rest : List SavedPart} {type : String}

theorem Ordered.sublist (h : Ordered clauses) (hrest : rest.Sublist clauses) : Ordered rest :=
  ⟨h.time_first.sublist hrest, h.fill_once.sublist hrest⟩

theorem FillLast.sublist (h : FillLast clauses) (hrest : rest.Sublist clauses) : FillLast rest :=
  List.Pairwise.sublist hrest h

theorem without_sublist (type : String) (clauses : List SavedPart) :
    (without type clauses).Sublist clauses :=
  List.filter_sublist

theorem type_ne_of_mem_without (h : clause ∈ without type clauses) : clause.type ≠ type := by
  simpa using (List.mem_filter.1 h).2

theorem endsWith_iff :
    endsWith type clauses = true ↔ ∃ front last, clauses = front ++ [last] ∧ last.type = type := by
  unfold endsWith
  rw [Option.any_eq_true]
  constructor
  · rintro ⟨last, hlast, htype⟩
    obtain ⟨front, hfront⟩ := List.getLast?_eq_some_iff.1 hlast
    exact ⟨front, last, hfront, by simpa using htype⟩
  · rintro ⟨front, last, rfl, htype⟩
    exact ⟨last, List.getLast?_concat .., by simpa using htype⟩

/-- Where a clause is put: at either end in place of those of its own type, or in front of a `fill`
at the end, or behind all others. -/
theorem place_cases (clause : SavedPart) (clauses : List SavedPart) :
    (clause.type = timeType ∧ place clause clauses = clause :: without timeType clauses) ∨
      (clause.type = fillType ∧ place clause clauses = without fillType clauses ++ [clause]) ∨
      (clause.type = tagType ∧ ∃ front last, clauses = front ++ [last] ∧ last.type = fillType ∧
        place clause clauses = front ++ [clause, last]) ∨
      (clause.type ≠ timeType ∧ clause.type ≠ fillType ∧
        (clause.type = tagType → ¬ endsWith fillType clauses) ∧
        place clause clauses = clauses ++ [clause]) := by
  unfold place
  by_cases htime : clause.type = timeType
  · exact .inl ⟨htime, by rw [if_pos htime]⟩
  by_cases hfill : clause.type = fillType
  · exact .inr (.inl ⟨hfill, by rw [if_neg htime, if_pos hfill]⟩)
  rw [if_neg htime, if_neg hfill]
  by_cases htag : clause.type = tagType ∧ endsWith fillType clauses
  · obtain ⟨front, last, rfl, hlast⟩ := endsWith_iff.1 htag.2
    refine .inr (.inr (.inl ⟨htag.1, front, last, rfl, hlast, ?_⟩))
    rw [if_pos htag]
    simp
  · refine .inr (.inr (.inr ⟨htime, hfill, fun h hends => htag ⟨h, hends⟩, ?_⟩))
    rw [if_neg htag]

theorem pairwise_insert {R : SavedPart → SavedPart → Prop} {front back : List SavedPart}
    (h : (front ++ back).Pairwise R) (hfront : ∀ earlier ∈ front, R earlier clause)
    (hback : ∀ later ∈ back, R clause later) : (front ++ clause :: back).Pairwise R := by
  obtain ⟨hbefore, hbehind, hacross⟩ := List.pairwise_append.1 h
  refine List.pairwise_append.2 ⟨hbefore, List.pairwise_cons.2 ⟨hback, hbehind⟩, ?_⟩
  intro earlier hearlier later hlater
  rcases List.mem_cons.1 hlater with rfl | hlater
  · exact hfront earlier hearlier
  · exact hacross earlier hearlier later hlater

theorem Ordered.insert {front back : List SavedPart} (h : Ordered (front ++ back))
    (htime : clause.type ≠ timeType) (hfill : clause.type ≠ fillType)
    (hback : ∀ later ∈ back, later.type ≠ timeType) : Ordered (front ++ clause :: back) :=
  ⟨pairwise_insert h.time_first (fun _ _ => htime) hback,
    pairwise_insert h.fill_once (fun _ _ => .inr hfill) fun _ _ => .inl hfill⟩

/-- A placed clause leaves the clauses ordered, whatever its type is. -/
theorem Ordered.place (h : Ordered clauses) (clause : SavedPart) :
    Ordered (place clause clauses) := by
  have hdiffer : timeType ≠ fillType ∧ tagType ≠ timeType ∧ tagType ≠ fillType := by decide
  obtain ⟨htime, hplace⟩ | ⟨hfill, hplace⟩ | ⟨htag, front, last, rfl, hlast, hplace⟩ |
    ⟨htime, hfill, -, hplace⟩ := place_cases clause clauses <;> rw [hplace]
  · have hrest := h.sublist (without_sublist timeType clauses)
    have hclause : clause.type ≠ fillType := by
      rw [htime]
      exact hdiffer.1
    exact ⟨List.pairwise_cons.2 ⟨fun _ hlater => type_ne_of_mem_without hlater, hrest.time_first⟩,
      List.pairwise_cons.2 ⟨fun _ _ => .inl hclause, hrest.fill_once⟩⟩
  · have hrest := h.sublist (without_sublist fillType clauses)
    have hclause : clause.type ≠ timeType := by
      rw [hfill]
      exact hdiffer.1.symm
    rw [← List.append_nil (without fillType clauses)] at hrest
    exact ⟨pairwise_insert hrest.time_first (fun _ _ => hclause) (by simp),
      pairwise_insert hrest.fill_once (fun _ hearlier => .inl (type_ne_of_mem_without hearlier))
        (by simp)⟩
  · have hclause : clause.type ≠ timeType ∧ clause.type ≠ fillType := by
      rw [htag]
      exact hdiffer.2
    refine h.insert hclause.1 hclause.2 fun later hlater => ?_
    rw [List.mem_singleton.1 hlater, hlast]
    exact hdiffer.1.symm
  · rw [← List.append_nil clauses] at h
    exact h.insert htime hfill (by simp)

theorem FillLast.type_ne (h : FillLast clauses) (hends : ¬ endsWith fillType clauses)
    (hclause : clause ∈ clauses) : clause.type ≠ fillType := by
  intro hfill
  obtain ⟨front, back, rfl⟩ := List.append_of_mem hclause
  obtain ⟨-, hback, -⟩ := List.pairwise_append.1 h
  cases back with
  | nil => exact hends (endsWith_iff.2 ⟨front, clause, rfl, hfill⟩)
  | cons next back => exact (List.pairwise_cons.1 hback).1 next List.mem_cons_self hfill

/-- A placed clause with a place of its own leaves `fill` at the end. -/
theorem FillLast.place (h : FillLast clauses) (htype : HasPlace clause.type) :
    FillLast (place clause clauses) := by
  have hdiffer : timeType ≠ fillType ∧ tagType ≠ fillType := by decide
  obtain ⟨htime, hplace⟩ | ⟨hfill, hplace⟩ | ⟨htag, front, last, rfl, hlast, hplace⟩ |
    ⟨htime, hfill, hends, hplace⟩ := place_cases clause clauses <;> rw [hplace]
  · have hclause : clause.type ≠ fillType := by
      rw [htime]
      exact hdiffer.1
    exact List.pairwise_cons.2 ⟨fun _ _ => hclause, h.sublist (without_sublist _ clauses)⟩
  · have hrest := h.sublist (without_sublist fillType clauses)
    rw [← List.append_nil (without fillType clauses)] at hrest
    exact pairwise_insert hrest (fun _ hearlier => type_ne_of_mem_without hearlier) (by simp)
  · have hclause : clause.type ≠ fillType := by
      rw [htag]
      exact hdiffer.2
    obtain ⟨-, -, hfront⟩ := List.pairwise_append.1 h
    exact pairwise_insert h
      (fun earlier hearlier => hfront earlier hearlier last (List.mem_singleton_self last))
      fun _ _ => hclause
  · have htag : clause.type = tagType := by
      rcases htype with h | h | h
      · exact absurd h htime
      · exact h
      · exact absurd h hfill
    have hnone : ∀ earlier ∈ clauses, earlier.type ≠ fillType :=
      fun _ hearlier => h.type_ne (hends htag) hearlier
    rw [← List.append_nil clauses] at h
    exact pairwise_insert h hnone (by simp)

end GroupBy

theorem Target.removeClause_sublist (index : Nat) (target : Target) :
    (target.removeClause index).groupBy.Sublist target.groupBy := by
  have hrest := List.eraseIdx_sublist target.groupBy index
  unfold Target.removeClause
  dsimp only
  split
  · split
    · exact (GroupBy.without_sublist _ _).trans hrest
    · exact hrest
  · exact .refl _

theorem Catalog.hasPlace_of_standard {type : String}
    (h : Catalog.standard.contains none type = true) : GroupBy.HasPlace type := by
  have hall : ∀ entry ∈ Catalog.standard.index none, GroupBy.HasPlace entry.1 := by
    unfold GroupBy.HasPlace
    decide +kernel
  obtain ⟨d, hd⟩ := Option.isSome_iff_exists.1 h
  obtain ⟨before, after, hentries, -⟩ := List.lookup_eq_some_iff.1 hd
  exact hall (type, d) (by simp [hentries])

end SeriesQuery
