import SeriesQuery.Proofs.Query.Counting

/-!
Programs that make queries and ask things of them. The queries share their counters, so that what a
gauge shows after a history is what all its events add, whichever query they belong to.
-/

namespace SeriesQuery

inductive Action
  | edit (command : Command)
  | buildFilter (tags : List Tag) (replacing : Bool)
  | render (reading : Query.IntervalReading)

def Session.counting {α : Type} (s : Session) (act : Counted α) : Except Error Unit × Session :=
  let (result, metrics) := act.eval s.metrics
  (result.map fun _ => (), { s with metrics })

namespace Action

def perform (s : Session) : Action → Except Error Unit × Session
  | edit command => command.perform s
  | buildFilter tags true => s.counting (s.query.buildFilter tags)
  | buildFilter _ false => (.ok (), s)
  | render reading => s.counting (s.query.renderWith reading)

/-- What an action is counted under; a filter that is taken as it is is not counted. -/
@[simp] def operation? : Action → Option Operation
  | edit command => command.operation?
  | buildFilter _ replacing => if replacing then some .buildFilter else none
  | render _ => some .render

end Action

/-- A call makes a query or asks something of one that was made. -/
inductive Call
  | create (catalog : Catalog) (context : Template.Context) (settings : Settings) (target : Target)
  | act (index : Nat) (action : Action)

/-- An answer, and what it was an answer to. -/
inductive Event
  | created (answer : Except Error Unit)
  | acted (query : Query) (action : Action) (answer : Except Error Unit)

/-- The queries that have been made, and the counters that they share. -/
structure Workspace where
  queries : List Query
  metrics : Metrics

namespace Workspace

def perform (w : Workspace) : Call → Option Event × Workspace
  | .create catalog context settings target =>
    let (result, metrics) := (Query.create catalog context settings target).eval w.metrics
    (some (.created (result.map fun _ => ())), ⟨w.queries ++ result.toOption.toList, metrics⟩)
  | .act index action =>
    match w.queries[index]? with
    | some q =>
      let (answer, s) := action.perform ⟨q, w.metrics⟩
      (some (.acted q action answer), ⟨w.queries.set index s.query, s.metrics⟩)
    | none => (none, w)

def performAll (w : Workspace) : List Call → List Event × Workspace
  | [] => ([], w)
  | call :: rest =>
    let (event, next) := w.perform call
    let (events, last) := next.performAll rest
    (event.toList ++ events, last)

end Workspace

namespace Event

@[simp] def operation? : Event → Option Operation
  | created _ => some .create
  | acted _ action _ => action.operation?

@[simp] def answer : Event → Except Error Unit
  | created answer => answer
  | acted _ _ answer => answer

@[simp] def isOf (operation : Operation) (event : Event) : Bool :=
  event.operation? == some operation

/-- The query was asked to remove its only pipeline, which stays. -/
def sparesPipeline : Event → Bool
  | acted q (.edit command) _ => command.sparesPipeline q
  | _ => false

/-- The edit that an event is counted as if the answer is a success. -/
def edited? (event : Event) : Option Operation :=
  if event.sparesPipeline then none else event.operation?.filter Operation.isEdit

end Event

@[simp] theorem worth_map {α β : Type} (success : Nat) (failure : Error → Nat)
    (result : Except Error α) (f : α → β) :
    worth success failure (result.map f) = worth success failure result := by
  cases result <;> rfl

namespace Gauge

/-- What a render adds beside its error: the error of its filter, and its outcome. -/
def surcharge (g : Gauge) : Event → Nat
  | .acted q (.render _) answer =>
    worth 0 (g.failure (some .buildFilter)) (q.builtFilter q.target.tags) +
      worth (g.render true) (fun _ => g.render false) answer
  | _ => 0

/-- What an event adds. -/
def due (g : Gauge) (event : Event) : Nat :=
  worth (event.edited?.elim 0 g.edit) (g.failure event.operation?) event.answer + g.surcharge event

end Gauge

namespace Workspace

variable {g : Gauge} {marked : Event → Bool}

theorem read_act (q : Query) (m : Metrics) (action : Action) :
    g.read (action.perform ⟨q, m⟩).2.metrics =
      g.read m + g.due (.acted q action (action.perform ⟨q, m⟩).1) := by
  cases action with
  | edit command => exact command.read_perform ⟨q, m⟩
  | buildFilter tags replacing =>
    cases replacing with
    | true =>
      simp only [Gauge.due, Event.answer, Action.perform, Session.counting, worth_map]
      exact q.adds_buildFilter tags m
    | false => rfl
  | render reading =>
    simp only [Gauge.due, Gauge.surcharge, Event.answer, Action.perform, Session.counting,
      worth_map]
    exact q.read_renderWith reading m

/-- A call adds to a gauge if its event is one of those that the gauge is for. -/
theorem read_perform (h : ∀ event, g.due event = if marked event then 1 else 0) (w : Workspace)
    (call : Call) :
    g.read (w.perform call).2.metrics =
      g.read w.metrics + (w.perform call).1.toList.countP marked := by
  cases call with
  | create catalog context settings target =>
    have hadds := Query.adds_create (g := g) catalog context settings target w.metrics
    rw [← worth_map 0 _ _ fun _ => ()] at hadds
    simp only [perform, Option.toList, List.countP_singleton, ← h]
    exact hadds
  | act index action =>
    simp only [perform]
    cases w.queries[index]? with
    | none => rfl
    | some q =>
      simp only [Option.toList, List.countP_singleton, ← h]
      exact read_act q w.metrics action

/-- A gauge shows what it showed before a history and the number of its events in the history. -/
theorem read_performAll (h : ∀ event, g.due event = if marked event then 1 else 0)
    (w : Workspace) (calls : List Call) :
    g.read (w.performAll calls).2.metrics =
      g.read w.metrics + (w.performAll calls).1.countP marked := by
  induction calls generalizing w with
  | nil => rfl
  | cons call rest ih =>
    have hevents : (w.performAll (call :: rest)).1 =
        (w.perform call).1.toList ++ ((w.perform call).2.performAll rest).1 := rfl
    rw [hevents, List.countP_append, ← Nat.add_assoc, ← read_perform h]
    exact ih (w.perform call).2

theorem read_eq_countP {w : Workspace} (hzero : g.read w.metrics = 0)
    (h : ∀ event, g.due event = if marked event then 1 else 0) (calls : List Call) :
    g.read (w.performAll calls).2.metrics = (w.performAll calls).1.countP marked := by
  rw [read_performAll h, hzero, Nat.zero_add]

end Workspace

end SeriesQuery
