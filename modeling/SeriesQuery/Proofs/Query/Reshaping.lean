import Mathlib.Data.List.InsertIdx
import SeriesQuery.Proofs.Query.Coherence
import SeriesQuery.Proofs.Query.PipelineEdits

/-!
What the commands for the pipelines make of a query. Each of them is one change of a list of lists,
made on the parts and on their records alike. All other parts stay where they are, and when records
are written anew those without parameters get the ones of their definitions.
-/

namespace SeriesQuery

/-- A change of lists within one of them, of the list of them, or of nothing. -/
inductive Reshaping (α : Type)
  | insert (list place : Nat) (item : α)
  | replace (list place : Nat) (item : α)
  | erase (list place : Nat)
  | drop (list : Nat)
  | append
  | keep

namespace Reshaping

variable {α β : Type}

def apply (lists : List (List α)) : Reshaping α → List (List α)
  | insert list place item => lists.modify list (·.insertIdx place item)
  | replace list place item => lists.modify list (·.set place item)
  | erase list place => lists.modify list (·.eraseIdx place)
  | drop list => lists.eraseIdx list
  | append => lists ++ [[]]
  | keep => lists

def map (f : α → β) : Reshaping α → Reshaping β
  | insert list place item => insert list place (f item)
  | replace list place item => replace list place (f item)
  | erase list place => erase list place
  | drop list => drop list
  | append => append
  | keep => keep

theorem map_modify {f : α → β} {g : α → α} {g' : β → β} (h : ∀ a, f (g a) = g' (f a))
    (items : List α) (place : Nat) :
    (items.modify place g).map f = (items.map f).modify place g' := by
  induction items generalizing place with
  | nil => simp
  | cons item items ih =>
    cases place with
    | zero => simp [h]
    | succ place => simp [ih]

/-- A change of lists is made on what their items stand for as well. -/
theorem map_apply (f : α → β) (r : Reshaping α) (lists : List (List α)) :
    (r.apply lists).map (·.map f) = (r.map f).apply (lists.map (·.map f)) := by
  cases r with
  | insert list place item =>
    exact map_modify (fun items => List.map_insertIdx f items place item) _ _
  | replace list place item => exact map_modify (fun items => List.map_set) _ _
  | erase list place => exact map_modify (fun items => (List.eraseIdx_map f items place).symm) _ _
  | drop list => exact (List.eraseIdx_map _ lists list).symm
  | append => simp [apply, map]
  | keep => rfl

/-- An item that was inserted is erased from its place, and nothing of it is left. -/
theorem apply_erase_insert (list place : Nat) (item : α) (lists : List (List α)) :
    (erase list place).apply ((insert list place item).apply lists) = lists := by
  have herase : (·.eraseIdx place) ∘ (·.insertIdx place item) = (id : List α → List α) :=
    funext fun items => List.eraseIdx_insertIdx_self item
  simp only [apply]
  rw [List.modify_modify_eq, herase, List.modify_id]

end Reshaping

namespace Query

variable {q q' : Query}

theorem insertAt_eq_insertIdx {α : Type} (item : α) (position : Nat) (items : List α) :
    insertAt item position items = items.insertIdx (min position items.length) item := by
  induction items generalizing position with
  | nil => simp [insertAt]
  | cons first rest ih =>
    cases position with
    | zero => rfl
    | succ position =>
      rw [List.length_cons, Nat.succ_min_succ, List.insertIdx_succ_cons, ← ih]
      rfl

/-- The query with its pipelines changed, in the parts and in records that are written so. -/
def reshaped (q : Query) (write : SavedPart → SavedPart) (r : Reshaping Part) : Query :=
  { q with
    target := { q.target with
      select := (r.map Part.saved).apply (q.target.select.map (·.map write)) }
    projection := { q.projection with select := r.apply q.projection.select } }

theorem withPipeline_eq (q : Query) : q.withPipeline = q.reshaped id .append := by
  simp [withPipeline, reshaped, Reshaping.map, Reshaping.apply]

/-- Records that are written anew are changed as the parts are. -/
theorem Coherent.withSelect_apply (h : q.Coherent) (r : Reshaping Part) :
    q.withSelect (r.apply q.projection.select) = q.reshaped q.catalog.completed r := by
  have hsaved : (r.apply q.projection.select).map (·.map Part.saved) =
      (r.map Part.saved).apply (q.target.select.map (·.map q.catalog.completed)) := by
    rw [Reshaping.map_apply, ← h.savedSelect_eq]
    rfl
  unfold Query.withSelect Query.persist savedSelect reshaped
  rw [hsaved]

end Query

namespace Command

open Query

/-- What a command for the pipelines makes of a query. -/
inductive Effect (q : Query) : Command → Query → Prop
  | addSelect : Effect q addSelect (q.reshaped id .append)
  | removeSelect {index : Nat} (hindex : index < q.projection.select.length)
      (hmany : 1 < q.projection.select.length) :
      Effect q (removeSelect index) (q.reshaped q.catalog.completed (.drop index))
  | removeOnlySelect {index : Nat} (hindex : index < q.projection.select.length)
      (honly : ¬ 1 < q.projection.select.length) : Effect q (removeSelect index) q
  | addSelectPart {pipeline position : Nat} {category : Category} {type : String}
      {parts : List Part} {d : Definition} (hparts : q.projection.select[pipeline]? = some parts)
      (hd : q.catalog.get? (some category) type = some d) :
      Effect q (addSelectPart pipeline category type position)
        (q.reshaped q.catalog.completed
          (.insert pipeline (min position parts.length) (.bind d (.select category type))))
  | removeSelectPart {pipeline part : Nat} {parts : List Part} {found : Part}
      (hparts : q.projection.select[pipeline]? = some parts) (hfound : parts[part]? = some found)
      (htype : found.definition.type ≠ fieldType) :
      Effect q (removeSelectPart pipeline part)
        (q.reshaped q.catalog.completed (.erase pipeline part))
  /-- The part that stands for its pipeline takes all of it away. -/
  | removeField {pipeline part : Nat} {parts : List Part} {found : Part}
      (hparts : q.projection.select[pipeline]? = some parts) (hfound : parts[part]? = some found)
      (htype : found.definition.type = fieldType) (hmany : 1 < q.projection.select.length) :
      Effect q (removeSelectPart pipeline part)
        (q.reshaped q.catalog.completed (.drop pipeline))
  | removeOnlyField {pipeline part : Nat} {parts : List Part} {found : Part}
      (hparts : q.projection.select[pipeline]? = some parts) (hfound : parts[part]? = some found)
      (htype : found.definition.type = fieldType) (honly : ¬ 1 < q.projection.select.length) :
      Effect q (removeSelectPart pipeline part) (q.reshaped q.catalog.completed .keep)
  | updateSelectParam {pipeline part param : Nat} {value : String} {parts : List Part}
      {found edited : Part} (hparts : q.projection.select[pipeline]? = some parts)
      (hfound : parts[part]? = some found) (hedited : found.withParam param value = .ok edited) :
      Effect q (updateSelectParam pipeline part param value)
        (q.reshaped q.catalog.completed (.replace pipeline part edited))

def ShapesPipelines : Command → Prop
  | addSelect | removeSelect _ | addSelectPart .. | removeSelectPart .. | updateSelectParam .. =>
    True
  | _ => False

variable {q q' : Query} {command : Command}

theorem modify_insertAt {select : List (List Part)} {pipeline : Nat} {parts : List Part}
    (hparts : select[pipeline]? = some parts) (part : Part) (position : Nat) :
    select.modify pipeline (insertAt part position) =
      (Reshaping.insert pipeline (min position parts.length) part).apply select := by
  refine List.ext_getElem? fun i => ?_
  simp only [Reshaping.apply, List.getElem?_modify]
  by_cases hi : pipeline = i
  · subst hi
    simp [hparts, insertAt_eq_insertIdx]
  · simp [hi]

theorem Effect.outcome_eq (h : q.Coherent) (heffect : Effect q command q') :
    command.outcome q = .ok q' := by
  cases heffect with
  | addSelect => exact congrArg Except.ok q.withPipeline_eq
  | removeSelect hindex hmany =>
    refine bind_eq_ok_iff.2 ⟨(), checkIndex_eq_ok_iff.2 hindex, ?_⟩
    rw [if_pos hmany, ← h.withSelect_apply]
    rfl
  | removeOnlySelect hindex honly =>
    exact bind_eq_ok_iff.2 ⟨(), checkIndex_eq_ok_iff.2 hindex, if_neg honly⟩
  | addSelectPart hparts hd =>
    obtain ⟨hpipeline, -⟩ := List.getElem?_eq_some_iff.1 hparts
    refine bind_eq_ok_iff.2 ⟨(), checkIndex_eq_ok_iff.2 hpipeline,
      bind_eq_ok_iff.2 ⟨_, Catalog.binds_iff.2 ⟨_, hd, rfl⟩, ?_⟩⟩
    rw [modify_insertAt hparts, h.withSelect_apply]
    rfl
  | removeSelectPart hparts hfound htype =>
    refine bind_eq_ok_iff.2 ⟨_, part_eq_ok_iff.2 ⟨_, hparts, hfound⟩, ?_⟩
    rw [selectWithout, if_neg htype, ← h.withSelect_apply]
    rfl
  | removeField hparts hfound htype hmany =>
    refine bind_eq_ok_iff.2 ⟨_, part_eq_ok_iff.2 ⟨_, hparts, hfound⟩, ?_⟩
    rw [selectWithout, if_pos htype, if_pos hmany, ← h.withSelect_apply]
    rfl
  | removeOnlyField hparts hfound htype honly =>
    refine bind_eq_ok_iff.2 ⟨_, part_eq_ok_iff.2 ⟨_, hparts, hfound⟩, ?_⟩
    rw [selectWithout, if_pos htype, if_neg honly, ← h.withSelect_apply]
    rfl
  | updateSelectParam hparts hfound hedited =>
    refine bind_eq_ok_iff.2 ⟨_, part_eq_ok_iff.2 ⟨_, hparts, hfound⟩,
      bind_eq_ok_iff.2 ⟨_, hedited, ?_⟩⟩
    rw [← h.withSelect_apply]
    rfl

theorem exists_effect (hcommand : command.ShapesPipelines) (hout : command.outcome q = .ok q') :
    ∃ after, Effect q command after := by
  cases command with
  | addSelect => exact ⟨_, .addSelect⟩
  | removeSelect index =>
    obtain ⟨_, hindex, -⟩ := bind_eq_ok_iff.1 hout
    by_cases hmany : 1 < q.projection.select.length
    · exact ⟨_, .removeSelect (checkIndex_eq_ok_iff.1 hindex) hmany⟩
    · exact ⟨_, .removeOnlySelect (checkIndex_eq_ok_iff.1 hindex) hmany⟩
  | addSelectPart pipeline category type position =>
    obtain ⟨_, hpipeline, hout⟩ := bind_eq_ok_iff.1 hout
    obtain ⟨part, hpart, -⟩ := bind_eq_ok_iff.1 hout
    obtain ⟨d, hd, -⟩ := Catalog.binds_iff.1 hpart
    exact ⟨_, .addSelectPart (List.getElem?_eq_getElem (checkIndex_eq_ok_iff.1 hpipeline)) hd⟩
  | removeSelectPart pipeline part =>
    obtain ⟨found, hpart, -⟩ := bind_eq_ok_iff.1 hout
    obtain ⟨parts, hparts, hfound⟩ := part_eq_ok_iff.1 hpart
    by_cases htype : found.definition.type = fieldType
    · by_cases hmany : 1 < q.projection.select.length
      · exact ⟨_, .removeField hparts hfound htype hmany⟩
      · exact ⟨_, .removeOnlyField hparts hfound htype hmany⟩
    · exact ⟨_, .removeSelectPart hparts hfound htype⟩
  | updateSelectParam pipeline part param value =>
    obtain ⟨found, hpart, hout⟩ := bind_eq_ok_iff.1 hout
    obtain ⟨parts, hparts, hfound⟩ := part_eq_ok_iff.1 hpart
    obtain ⟨edited, hedited, -⟩ := bind_eq_ok_iff.1 hout
    exact ⟨_, .updateSelectParam hparts hfound hedited⟩
  | _ => exact absurd hcommand id

/-- After any history, a command for the pipelines succeeds exactly if it has an effect, and it
makes of the query what its effect says: one change of the pipelines, in which every other part
keeps its value and its place among the others, with nothing else of the target changed. A record
that is written anew keeps its parameters, or gets those of its definition if it has none. -/
theorem performAll_effect_iff {catalog : Catalog} {context : Template.Context}
    {settings : Settings} {target : Target} {m : Metrics}
    (h : ((Query.create catalog context settings target).eval m).1 = .ok q)
    (commands : List Command) (hcommand : command.ShapesPipelines) :
    let s := performAll ⟨q, ((Query.create catalog context settings target).eval m).2⟩ commands
    let after := command.perform s
    (after.1 = .ok () ↔ ∃ q', Effect s.query command q') ∧
      (∀ q', Effect s.query command q' → after.2.query = q') ∧
      ∀ saved ∈ s.query.target.select.flatten, ∃ d, catalog.resolve? saved = some d ∧
        s.query.catalog.completed saved =
          { saved with params := some (saved.params.getD d.defaultParams) } := by
  intro s after
  obtain ⟨hcoherent, hs⟩ : s.query.Coherent ∧ s.query.catalog = catalog :=
    coherent_of_create h _ commands
  refine ⟨⟨fun hok => ?_, fun ⟨q', heffect⟩ => ?_⟩, fun q' heffect => ?_, fun saved hsaved => ?_⟩
  · obtain ⟨q', hout⟩ := exists_outcome_of_perform hok
    exact exists_effect hcommand hout
  · exact (perform_of_outcome (heffect.outcome_eq hcoherent)).1
  · exact (perform_of_outcome (heffect.outcome_eq hcoherent)).2
  · obtain ⟨records, hrecords, hsaved⟩ := List.mem_flatten.1 hsaved
    obtain ⟨parts, -, hparts⟩ := exists_rel_of_mem hcoherent.select_binds.flip hrecords
    obtain ⟨part, -, hbinds⟩ := exists_rel_of_mem hparts.flip hsaved
    obtain ⟨d, hd, -⟩ := Catalog.binds_iff.1 hbinds
    exact ⟨d, hs ▸ hd, Catalog.completed_eq hd⟩

/-- A number is changed where the record has no parameters yet, and the records beside it and in
another pipeline get those of their definitions. -/
theorem performAll_effect_topk :
    let topk : SavedPart := .select .filters "topk"
    let sum : SavedPart := .select .collapse "sum"
    let target : Target := { groupBy := [], select := [[topk, sum], [topk]] }
    let create := Query.create .standard ⟨.inert, .empty⟩ {} target
    ∃ q, (create.eval {}).1 = .ok q ∧
      let after := (updateSelectParam 0 0 0 "3").perform ⟨q, (create.eval {}).2⟩
      after.1 = .ok () ∧ after.2.query.target = { target with
        select := [[{ topk with params := some ["3"] }, { sum with params := some [] }],
          [{ topk with params := some ["5"] }]] } := by
  intro topk sum target create
  have htopk : Catalog.standard.Binds topk (.bind (.filter .top) topk) :=
    Catalog.binds_iff.2 ⟨_, by decide +kernel, rfl⟩
  have hsum : Catalog.standard.Binds sum (.bind (.aggregation .sum .collapse) sum) :=
    Catalog.binds_iff.2 ⟨_, by decide +kernel, rfl⟩
  let q : Query := ⟨target, .standard, ⟨.inert, .empty⟩, {},
    ⟨[[.bind (.filter .top) topk, .bind (.aggregation .sum .collapse) sum],
      [.bind (.filter .top) topk]], []⟩⟩
  have hq : (create.eval {}).1 = .ok q := by
    refine (gives_create _ _ _ _ _).trans (bind_eq_ok_iff.2 ⟨q.projection, ?_, rfl⟩)
    exact Projection.bind_eq_ok_iff.2
      ⟨.cons (.cons htopk (.cons hsum .nil)) (.cons (.cons htopk .nil) .nil), .nil⟩
  have heffect : Effect q (updateSelectParam 0 0 0 "3") _ := .updateSelectParam rfl rfl rfl
  have hshapes : (updateSelectParam 0 0 0 "3").ShapesPipelines := trivial
  obtain ⟨hok, hafter, -⟩ := performAll_effect_iff hq [] hshapes
  refine ⟨q, hq, hok.2 ⟨_, heffect⟩, (congrArg Query.target (hafter _ heffect)).trans ?_⟩
  decide +kernel

theorem outcome_removeSelectPart_added {pipeline position : Nat} {category : Category}
    {type : String} (hadded : (addSelectPart pipeline category type position).outcome q = .ok q')
    (htype : type ≠ fieldType) :
    (removeSelectPart pipeline (min position (q.partsOf pipeline).length)).outcome q' =
      .ok q.persist := by
  obtain ⟨_, hpipeline, hadded⟩ := bind_eq_ok_iff.1 hadded
  obtain ⟨part, hpart, hadded⟩ := bind_eq_ok_iff.1 hadded
  cases hadded
  obtain ⟨parts, hparts⟩ : ∃ parts, q.projection.select[pipeline]? = some parts :=
    ⟨_, List.getElem?_eq_getElem (checkIndex_eq_ok_iff.1 hpipeline)⟩
  have hpartsOf : q.partsOf pipeline = parts := by rw [partsOf, hparts, Option.getD_some]
  rw [hpartsOf, modify_insertAt hparts]
  have hinserted :
      ((Reshaping.insert pipeline (min position parts.length) part).apply
        q.projection.select)[pipeline]? =
        some (parts.insertIdx (min position parts.length) part) := by
    simp [Reshaping.apply, hparts]
  have hfound : (parts.insertIdx (min position parts.length) part)[min position parts.length]? =
      some part := by
    rw [List.getElem?_insertIdx_self, if_pos (Nat.min_le_right _ _)]
  have hpartType : part.definition.type ≠ fieldType := by
    rw [← (Catalog.Binds.key hpart).1]
    exact htype
  refine bind_eq_ok_iff.2 ⟨part, part_eq_ok_iff.2 ⟨_, hinserted, hfound⟩, ?_⟩
  rw [selectWithout, if_neg hpartType]
  exact congrArg (fun select => Except.ok (q.withSelect select))
    (Reshaping.apply_erase_insert pipeline (min position parts.length) part q.projection.select)

/-- An addition writes all records anew, and so it makes the same of a query written anew before. -/
theorem outcome_addSelectPart_persist (q : Query) (pipeline : Nat) (category : Category)
    (type : String) (position : Nat) :
    (addSelectPart pipeline category type position).outcome q.persist =
      (addSelectPart pipeline category type position).outcome q :=
  rfl

theorem perform_perform_of_outcome {one other : Command} {s : Session} {q'' : Query}
    (hone : one.outcome s.query = .ok q') (hother : other.outcome q' = .ok q'') :
    (one.perform s).1 = .ok () ∧ (other.perform (one.perform s).2).1 = .ok () ∧
      (other.perform (one.perform s).2).2.query = q'' := by
  obtain ⟨hok, hquery⟩ := perform_of_outcome hone
  rw [← hquery] at hother
  exact ⟨hok, perform_of_outcome hother⟩

/-- After any history, a part that could be added can be taken away again. The query then has the
parts that it had, and its target differs by the parameters of the definitions in select records
without any. To add the part and to take it away once more changes nothing. -/
theorem performAll_addSelectPart_undone {catalog : Catalog} {context : Template.Context}
    {settings : Settings} {target : Target} {m : Metrics}
    (h : ((Query.create catalog context settings target).eval m).1 = .ok q)
    (commands : List Command) (pipeline : Nat) (category : Category) {type : String}
    (htype : type ≠ fieldType) (position : Nat) :
    let s := performAll ⟨q, ((Query.create catalog context settings target).eval m).2⟩ commands
    let add := addSelectPart pipeline category type position
    let remove := removeSelectPart pipeline (min position (s.query.partsOf pipeline).length)
    let added := add.perform s
    let removed := remove.perform added.2
    let addedAgain := add.perform removed.2
    let removedAgain := remove.perform addedAgain.2
    added.1 = .ok () →
      removed.1 = .ok () ∧
      removed.2.query = { s.query with target := { s.query.target with
        select := s.query.target.select.map (·.map catalog.completed) } } ∧
      addedAgain.1 = .ok () ∧ removedAgain.1 = .ok () ∧
      removedAgain.2.query = removed.2.query := by
  intro s add remove added removed addedAgain removedAgain hok
  obtain ⟨hcoherent, hs⟩ : s.query.Coherent ∧ s.query.catalog = catalog :=
    coherent_of_create h _ commands
  obtain ⟨q', hadd⟩ := exists_outcome_of_perform hok
  have hremove : remove.outcome q' = .ok s.query.persist :=
    outcome_removeSelectPart_added hadd htype
  obtain ⟨-, hremovedOk, hremoved⟩ := perform_perform_of_outcome hadd hremove
  have haddAgain : add.outcome removed.2.query = .ok q' := by
    rw [hremoved, ← hadd]
    exact outcome_addSelectPart_persist _ _ _ _ _
  obtain ⟨haddedAgainOk, hremovedAgainOk, hremovedAgain⟩ :=
    perform_perform_of_outcome haddAgain hremove
  refine ⟨hremovedOk, ?_, haddedAgainOk, hremovedAgainOk, ?_⟩
  · rw [hremoved, ← hs]
    exact hcoherent.persist_eq
  · rw [hremovedAgain, hremoved]

/-- A part is added far behind the end of a pipeline, in which a record has no parameters. -/
theorem addSelectPart_sum_undone :
    let target : Target := { groupBy := [], select := [[.select .filters "topk"]] }
    let create := Query.create .standard ⟨.inert, .empty⟩ {} target
    let add := addSelectPart 0 .collapse "sum" 0xFFFFFFFFFFFFFFFF
    ∃ q, (create.eval {}).1 = .ok q ∧
      let added := add.perform ⟨q, (create.eval {}).2⟩
      let removed := (removeSelectPart 0 1).perform added.2
      added.1 = .ok () ∧ removed.1 = .ok () ∧ removed.2.query.target =
        { target with select := [[⟨"topk", some ["5"], .known .filters⟩]] } := by
  intro target create add
  have htopk : Catalog.standard.Binds (.select .filters "topk")
      (.bind (.filter .top) (.select .filters "topk")) :=
    Catalog.binds_iff.2 ⟨_, by decide +kernel, rfl⟩
  have hsum : Catalog.standard.get? (some .collapse) "sum" =
      some (.aggregation .sum .collapse) := by decide +kernel
  let q : Query := ⟨target, .standard, ⟨.inert, .empty⟩, {},
    ⟨[[.bind (.filter .top) (.select .filters "topk")]], []⟩⟩
  have hcreated : created .standard ⟨.inert, .empty⟩ {} target = .ok q := by
    refine bind_eq_ok_iff.2 ⟨q.projection, ?_, rfl⟩
    exact Projection.bind_eq_ok_iff.2 ⟨.cons (.cons htopk .nil) .nil, .nil⟩
  have hq : (create.eval {}).1 = .ok q := (gives_create _ _ _ _ _).trans hcreated
  have heffect : Effect q add _ := .addSelectPart rfl hsum
  have hadd : (add.perform ⟨q, (create.eval {}).2⟩).1 = .ok () :=
    (perform_of_outcome (heffect.outcome_eq (created_coherent hcreated))).1
  have htype : "sum" ≠ fieldType := by decide
  obtain ⟨hremovedOk, hremoved, -⟩ :=
    performAll_addSelectPart_undone hq [] 0 .collapse htype 0xFFFFFFFFFFFFFFFF hadd
  have hselect : target.select.map (·.map Catalog.standard.completed) =
      [[⟨"topk", some ["5"], .known .filters⟩]] := by decide +kernel
  refine ⟨q, hq, hadd, hremovedOk, (congrArg Query.target hremoved).trans ?_⟩
  exact congrArg (fun select => { target with select }) hselect

end Command

end SeriesQuery
