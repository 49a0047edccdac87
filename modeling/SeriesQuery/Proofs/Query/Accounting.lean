import SeriesQuery.Catalog.Standard
import SeriesQuery.Proofs.Query.Workspace

/-!
The counters against the answers. After any calls on any queries of a program every counter is the
number of the answers that it stands for.
-/

namespace SeriesQuery

/-- The result is an error of this kind. -/
@[simp] def failsWith {α : Type} (kind : ErrorKind) : Except Error α → Bool
  | .ok _ => false
  | .error e => e.kind == kind

/-- A filter was not built, on its own or for a request. -/
@[simp] def Event.filterFails (kind : ErrorKind) : Event → Bool
  | .acted _ (.buildFilter _ replacing) answer => replacing && failsWith kind answer
  | .acted q (.render _) _ => failsWith kind (q.builtFilter q.target.tags)
  | _ => false

/-- Nothing has been counted. -/
structure Metrics.IsZero (m : Metrics) : Prop where
  edits (values : List String) : m.edits.count values = 0
  errors (values : List String) : m.errors.count values = 0
  lookups (values : List String) : m.lookups.count values = 0
  renders (values : List String) : m.renders.count values = 0

/-- The counters are the numbers of answers that they stand for. -/
structure Accounts (events : List Event) (m : Metrics) : Prop where
  errors (operation : Operation) (h : operation ≠ .buildFilter) (kind : ErrorKind) :
    m.errors.count [kind.name, operation.name] =
      events.countP fun event => event.isOf operation && failsWith kind event.answer
  filterErrors (kind : ErrorKind) :
    m.errors.count [kind.name, Operation.buildFilter.name] = events.countP (·.filterFails kind)
  renders :
    m.renders.count (Metrics.renderStatus true) + m.renders.count (Metrics.renderStatus false) =
      events.countP (·.isOf .render)
  failedRenders : m.renders.count (Metrics.renderStatus false) =
      events.countP fun event => event.isOf .render && !event.answer.isOk
  edits (operation : Operation) : m.edits.count [operation.name] =
      if operation.isEdit then
        events.countP fun event =>
          event.isOf operation && event.answer.isOk && !event.sparesPipeline
      else 0
  missingParts : m.lookups.count (Metrics.lookupStatus false) =
      events.countP fun event => failsWith .partNotFound event.answer

theorem Command.operation?_ne_buildFilter (command : Command) :
    command.operation? ≠ some .buildFilter := by
  cases command <;> exact nofun

theorem Command.operation?_ne_render (command : Command) : command.operation? ≠ some .render := by
  cases command <;> exact nofun

namespace Gauge

variable {g : Gauge} {kind : ErrorKind} {operation : Operation} {operation? : Option Operation}
  {e : Error}

@[simp] theorem failure_errors : (errors kind operation).failure operation? e =
    if operation? = some operation ∧ e.kind = kind then 1 else 0 := by
  cases operation? <;> simp [failure, lost, errors, and_comm]

@[simp] theorem failure_edits : (edits operation).failure operation? e = 0 := by
  cases operation? <;> simp [failure, lost, edits]

@[simp] theorem failure_renders {success : Bool} :
    (renders success).failure operation? e = 0 := by
  cases operation? <;> simp [failure, lost, renders]

@[simp] theorem failure_missingParts : missingParts.failure operation? e =
    if e.kind = .partNotFound then 1 else 0 := by
  cases operation? <;> simp [failure, lost, missingParts]

theorem elim_edit_eq_zero (h : ∀ operation, g.edit operation = 0) :
    operation?.elim 0 g.edit = 0 := by
  cases operation? with
  | none => rfl
  | some operation => exact h operation

theorem surcharge_eq_zero
    (hfilter : ∀ q : Query, ∀ e, q.builtFilter q.target.tags = .error e →
      g.failure (some .buildFilter) e = 0)
    (hrender : ∀ success, g.render success = 0) (event : Event) : g.surcharge event = 0 := by
  unfold surcharge
  split
  next q _ answer =>
    cases h : q.builtFilter q.target.tags with
    | ok _ => cases answer <;> simp [hrender]
    | error e => cases answer <;> simp [hrender, hfilter q e h]
  next => rfl

theorem worth_errors {α : Type} (answer : Except Error α) :
    worth 0 ((errors kind operation).failure operation?) answer =
      if operation? == some operation && failsWith kind answer then 1 else 0 := by
  cases answer <;> simp

theorem worth_eq_zero {α : Type} {failure : Error → Nat} (h : ∀ e, failure e = 0)
    (answer : Except Error α) : worth 0 failure answer = 0 := by
  cases answer with
  | ok _ => rfl
  | error e => exact h e

theorem due_errors (h : operation ≠ .buildFilter) (event : Event) :
    (errors kind operation).due event =
      if event.isOf operation && failsWith kind event.answer then 1 else 0 := by
  have hsurcharge : (errors kind operation).surcharge event = 0 :=
    surcharge_eq_zero (fun _ _ _ => by simp [h.symm]) (fun _ => rfl) event
  rw [due, hsurcharge, elim_edit_eq_zero fun _ => rfl, worth_errors]
  rfl

theorem due_filterErrors (event : Event) :
    (errors kind .buildFilter).due event = if event.filterFails kind then 1 else 0 := by
  rw [due, elim_edit_eq_zero fun _ => rfl, worth_errors]
  cases event with
  | created answer => simp [surcharge]
  | acted q action answer =>
    cases action with
    | edit command =>
      simp [surcharge, command.operation?_ne_buildFilter]
    | buildFilter tags replacing =>
      cases replacing <;> simp [surcharge]
    | render reading =>
      have houtcome : worth ((errors kind .buildFilter).render true)
          (fun _ => (errors kind .buildFilter).render false) answer = 0 :=
        worth_eq_zero (fun _ => rfl) answer
      rw [surcharge, worth_errors, houtcome]
      exact Nat.zero_add _

theorem elim_edits (operation? : Option Operation) :
    (operation?.filter Operation.isEdit).elim 0 (edits operation).edit =
      if operation.isEdit ∧ operation? = some operation then 1 else 0 := by
  cases operation? with
  | none => simp
  | some o =>
    by_cases h : o = operation
    · subst h
      cases hedit : o.isEdit <;> simp [Option.filter, hedit, edits]
    · cases hedit : o.isEdit <;> simp [Option.filter, hedit, edits, h]

theorem due_edits (event : Event) :
    (edits operation).due event =
      if operation.isEdit && (event.isOf operation && event.answer.isOk && !event.sparesPipeline)
      then 1 else 0 := by
  have hsurcharge : (edits operation).surcharge event = 0 :=
    surcharge_eq_zero (fun _ _ _ => failure_edits) (fun _ => rfl) event
  rw [due, hsurcharge, Event.edited?]
  cases event.answer with
  | error e => simp [Except.isOk, Except.toBool]
  | ok _ =>
    cases event.sparesPipeline with
    | true => simp
    | false => simp [elim_edits, Except.isOk, Except.toBool]

theorem due_missingParts (event : Event) :
    missingParts.due event = if failsWith .partNotFound event.answer then 1 else 0 := by
  have hsurcharge : missingParts.surcharge event = 0 := by
    refine surcharge_eq_zero (fun q e he => ?_) (fun _ => rfl) event
    rw [failure_missingParts, if_neg (q.knowsParts_resolved _ _ _ e he)]
  rw [due, hsurcharge, elim_edit_eq_zero fun _ => rfl]
  cases event.answer <;> simp

theorem due_renders (success : Bool) (event : Event) :
    (renders success).due event =
      if event.isOf .render && event.answer.isOk == success then 1 else 0 := by
  have hfailure (o : Option Operation) {α : Type} (answer : Except Error α) :
      worth 0 ((renders success).failure o) answer = 0 :=
    worth_eq_zero (fun _ => failure_renders) answer
  rw [due, elim_edit_eq_zero fun _ => rfl, hfailure, Nat.zero_add]
  cases event with
  | created answer => simp [surcharge]
  | acted q action answer =>
    cases action with
    | edit command =>
      simp [surcharge, command.operation?_ne_render]
    | buildFilter tags replacing =>
      cases replacing <;> simp [surcharge]
    | render reading =>
      rw [surcharge, hfailure]
      cases success <;> cases answer <;> simp [renders, Except.isOk, Except.toBool]

end Gauge

/-- From zeroed counters on, every counter is the number of answers that it stands for. -/
theorem Workspace.performAll_accounts {w : Workspace} (hzero : w.metrics.IsZero)
    (calls : List Call) : Accounts (w.performAll calls).1 (w.performAll calls).2.metrics where
  errors operation h kind :=
    read_eq_countP (g := .errors kind operation) (hzero.errors _) (Gauge.due_errors h) calls
  filterErrors kind :=
    read_eq_countP (g := .errors kind .buildFilter) (hzero.errors _) Gauge.due_filterErrors calls
  renders := by
    have hrenders (success : Bool) :=
      read_eq_countP (g := .renders success) (hzero.renders _) (Gauge.due_renders success) calls
    have hsplit := List.countP_eq_countP_filter_add (w.performAll calls).1 (Event.isOf .render)
      (·.answer.isOk)
    rw [List.countP_filter, List.countP_filter] at hsplit
    rw [hsplit]
    exact congrArg₂ _ (by simpa [Gauge.renders] using hrenders true)
      (by simpa [Gauge.renders] using hrenders false)
  failedRenders := by
    have hrenders :=
      read_eq_countP (g := .renders false) (hzero.renders _) (Gauge.due_renders false) calls
    simpa [Gauge.renders] using hrenders
  edits operation := by
    have hedits :=
      read_eq_countP (g := .edits operation) (hzero.edits _) Gauge.due_edits calls
    cases h : operation.isEdit <;> simpa [h, Gauge.edits] using hedits
  missingParts :=
    read_eq_countP (g := .missingParts) (hzero.lookups _) Gauge.due_missingParts calls

/-- Two definitions are missing, one expression cannot be read, one pipeline is removed and the one
that is left is not. -/
theorem Workspace.accounts_of_session :
    let w : Workspace := ⟨[], {}⟩
    let calls : List Call :=
      [.create .standard ⟨.inert, .empty⟩ {} { groupBy := [.clause "nothing" none] },
        .create .standard ⟨.inert, .empty⟩ {} {}, .act 0 (.edit (.addGroupBy "tag")),
        .act 0 (.edit (.addGroupBy "nothing(1)")), .act 0 (.edit .addSelect),
        .act 0 (.edit (.removeSelect 0)), .act 0 (.edit (.removeSelect 0))]
    w.metrics.IsZero ∧ Accounts (w.performAll calls).1 (w.performAll calls).2.metrics ∧
      (w.performAll calls).2.metrics.errors.count ["parse", "add_group_by"] = 1 ∧
      (w.performAll calls).2.metrics.edits.count ["remove_select"] = 1 ∧
      (w.performAll calls).2.metrics.lookups.count ["missing"] = 2 := by
  intro w calls
  have hzero : w.metrics.IsZero := ⟨fun _ => rfl, fun _ => rfl, fun _ => rfl, fun _ => rfl⟩
  have haccounts := Workspace.performAll_accounts hzero calls
  refine ⟨hzero, haccounts, ?_, ?_, ?_⟩
  · exact (haccounts.errors .addGroupBy nofun .parse).trans (by decide +kernel)
  · exact (haccounts.edits .removeSelect).trans (by decide +kernel)
  · exact haccounts.missingParts.trans (by decide +kernel)

end SeriesQuery
