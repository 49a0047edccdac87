import SeriesQuery.Catalog.Standard
import SeriesQuery.Proofs.Query.Outcome

/-! A command that fails cannot be told from one that was never given, except by what is counted. -/

namespace SeriesQuery

namespace Command

/-- What each command of a history answers. -/
def answers (s : Session) : List Command → List (Except Error Unit)
  | [] => []
  | command :: rest => (command.perform s).1 :: answers (command.perform s).2 rest

variable {s t : Session} {command : Command} {e : Error}

theorem perform_congr (command : Command) (h : s.query = t.query) :
    (command.perform s).1 = (command.perform t).1 ∧
      (command.perform s).2.query = (command.perform t).2.query := by
  simp only [perform_fst, perform_query, h, and_self]

/-- Sessions on one query answer every history alike, whatever each of them has counted. -/
theorem answers_congr (h : s.query = t.query) (commands : List Command) :
    answers s commands = answers t commands ∧
      (performAll s commands).query = (performAll t commands).query := by
  induction commands generalizing s t with
  | nil => exact ⟨rfl, h⟩
  | cons command rest ih =>
    obtain ⟨hanswer, hquery⟩ := perform_congr command h
    obtain ⟨hanswers, hlast⟩ := ih hquery
    exact ⟨by simp only [answers, hanswer, hanswers], hlast⟩

theorem query_of_perform_error (h : (command.perform s).1 = .error e) :
    (command.perform s).2.query = s.query := by
  rw [perform_fst] at h
  rw [perform_query]
  cases hout : command.outcome s.query with
  | error _ => rfl
  | ok _ =>
    rw [hout] at h
    cases h

/-- After a failed command the query is what it was before, and every later history, rendering and
key is what it would have been without the command. -/
theorem perform_error_invisible (h : (command.perform s).1 = .error e) (later : List Command) :
    (command.perform s).2.query = s.query ∧
      answers (command.perform s).2 later = answers s later ∧
      (performAll (command.perform s).2 later).query = (performAll s later).query ∧
      (performAll (command.perform s).2 later).query.key = (performAll s later).query.key ∧
      ∀ reading : Query.IntervalReading,
        (((performAll (command.perform s).2 later).query.renderWith reading).eval
            (performAll (command.perform s).2 later).metrics).1 =
          (((performAll s later).query.renderWith reading).eval
            (performAll s later).metrics).1 := by
  have hquery := query_of_perform_error h
  obtain ⟨hanswers, hlast⟩ := answers_congr hquery later
  refine ⟨hquery, hanswers, hlast, by rw [hlast], fun reading => ?_⟩
  rw [Query.gives_renderWith _ reading, Query.gives_renderWith _ reading, hlast]

/-- A part without a definition is refused after its pipeline was found. -/
theorem addSelectPart_median_invisible :
    let q : Query := ⟨{ groupBy := [] }, .standard, ⟨.inert, .empty⟩, {}, ⟨[[]], []⟩⟩
    let command := addSelectPart 0 .collapse "median" 3
    (command.perform ⟨q, {}⟩).1 = .error (.partNotFound "median" (some "Collapse")) ∧
      (command.perform ⟨q, {}⟩).2.query = q := by
  intro q command
  have hmissing : Catalog.standard.resolve? (.select .collapse "median") = none := by
    decide +kernel
  have hfails : (command.perform ⟨q, {}⟩).1 =
      .error (.partNotFound "median" (some "Collapse")) := by
    rw [perform_fst]
    simp only [command, outcome, q, Catalog.bind, hmissing]
    rfl
  exact ⟨hfails, (perform_error_invisible hfails []).1⟩

end Command

end SeriesQuery
