import SeriesQuery.Catalog.Standard
import SeriesQuery.Proofs.Query.Outcome
import SeriesQuery.Proofs.Result

/-!
Edits of one pipeline. Such an edit sees nothing of the other pipelines and leaves them as they are,
so that edits of different pipelines may be given in either order.
-/

namespace SeriesQuery

namespace Query

variable {q q' : Query} {pipeline other : Nat} {edit : List Part → Except Error (List Part)}

/-- The parts of a pipeline; none if there is no such pipeline. -/
def partsOf (q : Query) (pipeline : Nat) : List Part :=
  q.projection.select[pipeline]?.getD []

def editedParts (q : Query) (pipeline : Nat) (edit : List Part → Except Error (List Part)) :
    Except Error (List Part) := do
  q.checkPipeline pipeline
  edit (q.partsOf pipeline)

def withParts (q : Query) (pipeline : Nat) (parts : List Part) : Query :=
  q.withSelect (q.projection.select.set pipeline parts)

/-- An edit of this pipeline sees the same in both queries. -/
structure AgreeAt (pipeline : Nat) (q q' : Query) : Prop where
  catalog : q'.catalog = q.catalog
  length_eq : q'.projection.select.length = q.projection.select.length
  partsOf_eq : q'.partsOf pipeline = q.partsOf pipeline

theorem AgreeAt.refl (pipeline : Nat) (q : Query) : AgreeAt pipeline q q := ⟨rfl, rfl, rfl⟩

theorem AgreeAt.editedParts_eq (h : AgreeAt pipeline q q')
    (edit : List Part → Except Error (List Part)) :
    q'.editedParts pipeline edit = q.editedParts pipeline edit := by
  unfold editedParts checkPipeline
  rw [h.length_eq, h.partsOf_eq]

theorem agreeAt_withParts (hne : other ≠ pipeline) (q : Query) (parts : List Part) :
    AgreeAt pipeline q (q.withParts other parts) where
  catalog := rfl
  length_eq := List.length_set
  partsOf_eq := by
    have hplace : (q.projection.select.set other parts)[pipeline]? =
        q.projection.select[pipeline]? := List.getElem?_set_ne hne
    exact congrArg (·.getD []) hplace

theorem withParts_comm (hne : pipeline ≠ other) (q : Query) (parts parts' : List Part) :
    (q.withParts pipeline parts).withParts other parts' =
      (q.withParts other parts').withParts pipeline parts := by
  have hset : (q.projection.select.set pipeline parts).set other parts' =
      (q.projection.select.set other parts').set pipeline parts := List.set_comm _ _ hne
  exact congrArg q.withSelect hset

theorem withSelect_modify (q : Query) (pipeline : Nat) (f : List Part → List Part) :
    q.withSelect (q.projection.select.modify pipeline f) =
      q.withParts pipeline (f (q.partsOf pipeline)) :=
  congrArg q.withSelect (List.modify_eq_set f pipeline q.projection.select)

def partAt (place : Nat) (parts : List Part) : Except Error Part :=
  match parts[place]? with
  | some found => .ok found
  | none => .error (.invalidIndex .part place parts.length)

theorem part_eq_bind (q : Query) (pipeline place : Nat) :
    q.part pipeline place =
      q.checkPipeline pipeline >>= fun _ => partAt place (q.partsOf pipeline) :=
  rfl

theorem part_bind (q : Query) (pipeline place : Nat)
    (next : List Part → Part → Except Error (List Part)) :
    (q.part pipeline place >>= fun found =>
        (next (q.partsOf pipeline) found).map (q.withParts pipeline)) =
      (q.editedParts pipeline fun parts => partAt place parts >>= next parts).map
        (q.withParts pipeline) := by
  rw [part_eq_bind, editedParts]
  cases q.checkPipeline pipeline with
  | error e => rfl
  | ok _ => cases partAt place (q.partsOf pipeline) <;> rfl

theorem AgreeAt.part_eq (h : AgreeAt pipeline q q') (place : Nat) :
    q'.part pipeline place = q.part pipeline place := by
  rw [part_eq_bind, part_eq_bind, checkPipeline, checkPipeline, h.length_eq, h.partsOf_eq]

end Query

namespace Command

open Query

variable {q : Query} {s : Session} {pipeline pipeline' : Nat} {command one other : Command}

/-- The command changes the parts of one pipeline: it adds a part, changes a parameter, or removes a
part that does not stand for its whole pipeline. -/
def EditsWithin (q : Query) (pipeline : Nat) : Command → Prop
  | addSelectPart index _ _ _ => index = pipeline
  | updateSelectParam index _ _ _ => index = pipeline
  | removeSelectPart index part => index = pipeline ∧
      ∀ found, q.part pipeline part = .ok found → found.definition.type ≠ fieldType
  | _ => False

/-- What such a command does can be told from the parts of its pipeline alone. -/
theorem EditsWithin.exists_edit (h : command.EditsWithin q pipeline) :
    ∃ edit, ∀ q', AgreeAt pipeline q q' →
      command.outcome q' = (q'.editedParts pipeline edit).map (q'.withParts pipeline) := by
  cases command with
  | addSelectPart index category type position =>
    cases h
    refine ⟨fun parts => do
      let part ← q.catalog.bind (.select category type)
      return insertAt part position parts, fun q' hagree => ?_⟩
    simp only [outcome, editedParts, hagree.catalog, withSelect_modify]
    cases q'.checkPipeline pipeline <;> cases q.catalog.bind (.select category type) <;> rfl
  | updateSelectParam index part param value =>
    cases h
    refine ⟨fun parts => partAt part parts >>= fun found =>
      (found.withParam param value).map fun edited => parts.set part edited, fun q' _ => ?_⟩
    rw [← part_bind q' pipeline part fun parts found =>
      (found.withParam param value).map fun edited => parts.set part edited]
    simp only [outcome, withSelect_modify]
    refine bind_congr fun found => ?_
    cases found.withParam param value <;> rfl
  | removeSelectPart index part =>
    obtain ⟨rfl, hfield⟩ := h
    refine ⟨fun parts => partAt part parts >>= fun _ => .ok (parts.eraseIdx part),
      fun q' hagree => ?_⟩
    rw [← part_bind q' index part fun parts _ => .ok (parts.eraseIdx part)]
    cases hpart : q'.part index part with
    | error e => simp only [outcome, hpart, bind, Except.bind]
    | ok found =>
      -- Only a part that stands for its pipeline would take the whole pipeline with it.
      have htype := hfield found (hagree.part_eq part ▸ hpart)
      simp only [outcome, hpart, selectWithout, bind, Except.bind, if_neg htype, withSelect_modify]
      rfl
  | _ => exact absurd h id

/-- A command that keeps to its pipeline leaves what is seen from another one. -/
theorem EditsWithin.agreeAt (h : command.EditsWithin s.query pipeline)
    (hne : pipeline ≠ pipeline') : AgreeAt pipeline' s.query (command.perform s).2.query := by
  obtain ⟨edit, hedit⟩ := h.exists_edit
  rw [perform_query, hedit _ (.refl _ _)]
  cases s.query.editedParts pipeline edit with
  | error e => exact .refl _ _
  | ok parts => exact agreeAt_withParts hne _ _

/-- Commands that keep to different pipelines may be given in either order. In every session, each
of them has the same outcome before and after the other one, be it an error, and both orders lead
to the same query. -/
theorem perform_comm (hne : pipeline ≠ pipeline') (hone : one.EditsWithin s.query pipeline)
    (hother : other.EditsWithin s.query pipeline') :
    (one.perform (other.perform s).2).1 = (one.perform s).1 ∧
      (other.perform (one.perform s).2).1 = (other.perform s).1 ∧
      (other.perform (one.perform s).2).2.query = (one.perform (other.perform s).2).2.query := by
  have hagree := hother.agreeAt hne.symm
  have hagree' := hone.agreeAt hne
  obtain ⟨edit, hedit⟩ := hone.exists_edit
  obtain ⟨edit', hedit'⟩ := hother.exists_edit
  have houtcome := hedit _ (.refl _ _)
  have houtcome' := hedit' _ (.refl _ _)
  simp only [perform_fst, perform_query] at hagree hagree' ⊢
  rw [hedit _ hagree, hedit' _ hagree', hagree.editedParts_eq, hagree'.editedParts_eq, houtcome,
    houtcome']
  cases s.query.editedParts pipeline edit with
  | error e => cases s.query.editedParts pipeline' edit' <;> exact ⟨rfl, rfl, rfl⟩
  | ok parts =>
    cases s.query.editedParts pipeline' edit' with
    | error e => exact ⟨rfl, rfl, rfl⟩
    | ok parts' => exact ⟨rfl, rfl, withParts_comm hne _ _ _⟩

/-- A parameter is changed in one pipeline, whose record has no parameters yet, and a part is
removed from another one. -/
theorem perform_topk_sum_comm :
    let topk : SavedPart := .select .filters "topk"
    let sum : SavedPart := .select .collapse "sum"
    let s : Session := ⟨⟨{ groupBy := [], select := [[topk], [sum]] }, .standard,
      ⟨.inert, .empty⟩, {}, ⟨[[.bind (.filter .top) topk],
        [.bind (.aggregation .sum .collapse) sum]], []⟩⟩, {}⟩
    let change := updateSelectParam 0 0 0 "3"
    let removal := removeSelectPart 1 0
    change.EditsWithin s.query 0 ∧ removal.EditsWithin s.query 1 ∧
      (removal.perform (change.perform s).2).2.query =
        (change.perform (removal.perform s).2).2.query := by
  intro topk sum s change removal
  have hchange : change.EditsWithin s.query 0 := rfl
  have hremoval : removal.EditsWithin s.query 1 := by
    refine ⟨rfl, fun found hfound => ?_⟩
    cases hfound
    decide
  exact ⟨hchange, hremoval, (perform_comm (by decide) hchange hremoval).2.2⟩

end Command

end SeriesQuery
