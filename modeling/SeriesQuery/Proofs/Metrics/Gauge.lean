import Mathlib.Data.List.Infix
import SeriesQuery.Query.Operation

/-!
What the counters read after something is recorded. Two series whose labels are the same text when
joined would be one; the names of kinds and operations never are, since no name of a kind begins
another one.
-/

namespace SeriesQuery

namespace Counter

variable {c : Counter} {values others : List String}

theorem count_eq_zero_of_not_has (h : c.has others = false) : c.count others = 0 := by
  rw [has, List.any_eq_false] at h
  have hnone : c.series.find? (fun entry => identity entry.1 == identity others) = none :=
    List.find?_eq_none.2 h
  simp [count, hnone]

theorem count_insert (n : Nat) {series : List (List String × Nat)}
    (habsent : Counter.has ⟨series⟩ values = false) (others : List String) :
    Counter.count ⟨insert values n series⟩ others =
      Counter.count ⟨series⟩ others + if identity values = identity others then n else 0 := by
  induction series with
  | nil => by_cases h : identity values = identity others <;> simp [insert, count, h]
  | cons entry rest ih =>
    obtain ⟨first, m⟩ := entry
    obtain ⟨hfirst, hrest⟩ : identity first ≠ identity values ∧
        Counter.has ⟨rest⟩ values = false := by
      simpa [has] using habsent
    have hih := ih hrest
    rw [insert]
    split
    · by_cases h : identity values = identity others
      · have hzero : Counter.count ⟨(first, m) :: rest⟩ others = 0 :=
          count_eq_zero_of_not_has (by simpa [has, ← h] using habsent)
        rw [hzero]
        simp [count, h]
      · simp [count, h]
    · by_cases h : identity first = identity others
      · have hne : identity values ≠ identity others := h ▸ hfirst.symm
        simp [count, h, hne]
      · simpa [count, h] using hih

/-- The count of a series that is there already is the only one that changes. -/
theorem count_raised (hpresent : c.has values = true) (n : Nat) (others : List String) :
    Counter.count ⟨c.series.map fun (other, m) =>
        if identity other = identity values then (other, m + n) else (other, m)⟩ others =
      c.count others + if identity values = identity others then n else 0 := by
  have hkept : (fun entry : List String × Nat => identity entry.1 == identity others) ∘
      (fun (other, m) =>
        if identity other = identity values then (other, m + n) else (other, m)) =
      fun entry => identity entry.1 == identity others := by
    funext entry
    dsimp only [Function.comp]
    split <;> rfl
  have hfind (entry : List String × Nat)
      (h : c.series.find? (fun entry => identity entry.1 == identity others) = some entry) :
      identity entry.1 = identity others := by
    simpa using List.find?_some h
  simp only [count, List.find?_map, hkept]
  rcases h : c.series.find? (fun entry => identity entry.1 == identity others) with _ | ⟨other, m⟩
  · have hne : identity values ≠ identity others := by
      intro heq
      obtain ⟨entry, hentry, hsame⟩ := List.any_eq_true.1 hpresent
      exact List.find?_eq_none.1 h entry hentry (by rwa [heq] at hsame)
    simp [h, hne]
  · have hother : identity other = identity others := hfind _ h
    by_cases heq : identity values = identity others
    · simp [h, hother, heq]
    · simp [h, hother, heq, Ne.symm heq]

theorem count_add (c : Counter) (values others : List String) (n : Nat) :
    (c.add values n).count others =
      c.count others + if identity values = identity others then n else 0 := by
  unfold add
  split
  next hpresent => exact count_raised hpresent n others
  next habsent => exact count_insert n (by simpa using habsent) others

end Counter

namespace Operation

def all : List Operation :=
  [create, updateProjection, setTarget, setTags, setMeasurement, setGlobalAggregation, addGroupBy,
    removeGroupByPart, addSelect, removeSelect, addSelectPart, removeSelectPart, updateSelectParam,
    buildFilter, render]

theorem mem_all (operation : Operation) : operation ∈ all := by
  cases operation <;> decide

theorem name_inj {a b : Operation} : a.name = b.name ↔ a = b := by
  have h : ∀ a ∈ all, ∀ b ∈ all, a.name = b.name → a = b := by decide +kernel
  exact ⟨h a a.mem_all b b.mem_all, congrArg name⟩

end Operation

namespace ErrorKind

def all : List ErrorKind :=
  [partNotFound, parse, invalidInterval, invalidParam, invalidIndex, unsupportedQuery,
    serialization, configuration, io]

theorem mem_all (kind : ErrorKind) : kind ∈ all := by
  cases kind <;> decide

/-- No name of a kind begins another one. -/
theorem eq_of_name_prefix {a b : ErrorKind} (h : a.name.toList <+: b.name.toList) : a = b := by
  have hall : ∀ a ∈ all, ∀ b ∈ all, a.name.toList <+: b.name.toList → a = b := by decide +kernel
  exact hall a a.mem_all b b.mem_all h

end ErrorKind

namespace Counter

@[simp] theorem identity_operation_inj {a b : Operation} :
    identity [a.name] = identity [b.name] ↔ a = b := by
  simp [identity, Operation.name_inj]

/-- Errors are told apart by their kind and the operation they come from. -/
@[simp] theorem identity_error_inj {kind kind' : ErrorKind} {operation operation' : Operation} :
    identity [kind.name, operation.name] = identity [kind'.name, operation'.name] ↔
      kind = kind' ∧ operation = operation' := by
  refine ⟨fun h => ?_, by rintro ⟨rfl, rfl⟩; rfl⟩
  have htext : kind.name.toList ++ operation.name.toList =
      kind'.name.toList ++ operation'.name.toList := by
    simpa [identity] using congrArg String.toList h
  have hkind : kind = kind' := by
    have hfirst := List.prefix_append kind.name.toList operation.name.toList
    have hsecond := List.prefix_append kind'.name.toList operation'.name.toList
    rw [← htext] at hsecond
    -- Both names begin the same text, so that one of them begins the other.
    rcases List.prefix_or_prefix_of_prefix hfirst hsecond with hprefix | hprefix
    · exact ErrorKind.eq_of_name_prefix hprefix
    · exact (ErrorKind.eq_of_name_prefix hprefix).symm
  subst hkind
  have hname : operation.name = operation'.name :=
    String.toList_inj.1 (List.append_cancel_left htext)
  exact ⟨rfl, Operation.name_inj.1 hname⟩

end Counter

namespace Metrics

@[simp] theorem identity_lookupStatus_inj {a b : Bool} :
    Counter.identity (lookupStatus a) = Counter.identity (lookupStatus b) ↔ a = b := by
  cases a <;> cases b <;> decide

@[simp] theorem identity_renderStatus_inj {a b : Bool} :
    Counter.identity (renderStatus a) = Counter.identity (renderStatus b) ↔ a = b := by
  cases a <;> cases b <;> decide

end Metrics

/-- A number read off the counters, and what it grows by with each record. Definitions that are
found add nothing, since an answer does not say how many were found before one was missing. -/
structure Gauge where
  read : Metrics → Nat
  edit : Operation → Nat
  error : ErrorKind → Operation → Nat
  missing : Nat
  render : Bool → Nat
  read_recordEdit (operation : Operation) (m : Metrics) :
    read (m.recordEdit operation.name) = read m + edit operation
  read_recordError (kind : ErrorKind) (operation : Operation) (m : Metrics) :
    read (m.recordError kind.name operation.name) = read m + error kind operation
  read_recordLookup (found : Bool) (m : Metrics) :
    read (m.recordLookup found) = read m + if found then 0 else missing
  read_recordRender (success : Bool) (m : Metrics) :
    read (m.recordRender success) = read m + render success

namespace Gauge

def errors (kind : ErrorKind) (operation : Operation) : Gauge where
  read m := m.errors.count [kind.name, operation.name]
  edit _ := 0
  error k o := if k = kind ∧ o = operation then 1 else 0
  missing := 0
  render _ := 0
  read_recordEdit _ _ := rfl
  read_recordError k o m := by simp [Metrics.recordError, Counter.count_add]
  read_recordLookup found m := by simp [Metrics.recordLookup]
  read_recordRender _ _ := rfl

def edits (operation : Operation) : Gauge where
  read m := m.edits.count [operation.name]
  edit o := if o = operation then 1 else 0
  error _ _ := 0
  missing := 0
  render _ := 0
  read_recordEdit o m := by simp [Metrics.recordEdit, Counter.count_add]
  read_recordError _ _ _ := rfl
  read_recordLookup found m := by simp [Metrics.recordLookup]
  read_recordRender _ _ := rfl

/-- The lookups that found no definition. -/
def missingParts : Gauge where
  read m := m.lookups.count (Metrics.lookupStatus false)
  edit _ := 0
  error _ _ := 0
  missing := 1
  render _ := 0
  read_recordEdit _ _ := rfl
  read_recordError _ _ _ := rfl
  read_recordLookup found m := by
    cases found <;> simp [Metrics.recordLookup, Counter.count_add]
  read_recordRender _ _ := rfl

def renders (success : Bool) : Gauge where
  read m := m.renders.count (Metrics.renderStatus success)
  edit _ := 0
  error _ _ := 0
  missing := 0
  render outcome := if outcome = success then 1 else 0
  read_recordEdit _ _ := rfl
  read_recordError _ _ _ := rfl
  read_recordLookup found m := by simp [Metrics.recordLookup]
  read_recordRender outcome m := by simp [Metrics.recordRender, Counter.count_add]

/-- What the error of a lookup adds: a definition is missing exactly when the error says so. -/
def lost (g : Gauge) (e : Error) : Nat :=
  if e.kind = .partNotFound then g.missing else 0

/-- What an error adds that is counted under an operation, if it is. -/
def failure (g : Gauge) (operation? : Option Operation) (e : Error) : Nat :=
  g.lost e + operation?.elim 0 (g.error e.kind)

end Gauge

end SeriesQuery
