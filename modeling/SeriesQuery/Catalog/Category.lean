/-! Categories of select parts. Group-by functions have none. -/

namespace SeriesQuery

inductive Category
  /-- Aggregation of every series for itself. -/
  | forEach
  /-- Aggregation across the whole group. -/
  | collapse
  /-- Grouping anew by tags. -/
  | groupBy
  | filters
deriving DecidableEq

namespace Category

/-- The categories in the order in which editors list them. -/
def all : List Category := [forEach, collapse, groupBy, filters]

def label : Category → String
  | forEach => "For Each"
  | collapse => "Collapse"
  | groupBy => "Group By"
  | filters => "Filters"

def ofLabel? (label : String) : Option Category :=
  all.find? (·.label == label)

/-- The tags that an aggregation of this category groups by when none are given: for each series by
itself, else over all of them. -/
def defaultGrouping : Category → Option (List String)
  | forEach => none
  | _ => some []

@[simp] theorem ofLabel?_label (c : Category) : ofLabel? c.label = some c := by
  cases c <;> decide

theorem ofLabel?_eq_some_iff {label : String} {c : Category} :
    ofLabel? label = some c ↔ c.label = label := by
  constructor
  · intro h
    simpa using List.find?_some h
  · rintro rfl
    exact ofLabel?_label c

end Category

/-- Where a part belongs: to no category, to a known one, or under a label that names no category
and is kept as it was found. A part with a category and such a label beside it cannot be written
down, nor one with the label of a category kept as unknown: neither comes from reading a part or
from making one with a category. -/
inductive Scope
  | none
  | known (category : Category)
  | unrecognized (label : String) (unknown : Category.ofLabel? label = Option.none)
deriving DecidableEq

namespace Scope

def ofCategory : Option Category → Scope
  | Option.none => none
  | some category => known category

def category? : Scope → Option Category
  | known category => some category
  | _ => Option.none

def label? : Scope → Option String
  | none => Option.none
  | known category => some category.label
  | unrecognized label _ => some label

def ofLabel? (label : Option String) : Scope :=
  match label with
  | Option.none => none
  | some label =>
    match h : Category.ofLabel? label with
    | some category => known category
    | Option.none => unrecognized label h

@[simp] theorem ofLabel?_label? (s : Scope) : ofLabel? s.label? = s := by
  cases s with
  | none => rfl
  | known category =>
    simp only [label?, ofLabel?]
    split
    · next h => rw [Category.ofLabel?_label] at h; cases h; rfl
    · next h => simp at h
  | unrecognized label unknown =>
    simp only [label?, ofLabel?]
    split
    · next h => rw [unknown] at h; cases h
    · rfl

@[simp] theorem label?_ofLabel? (label : Option String) : (ofLabel? label).label? = label := by
  cases label with
  | none => rfl
  | some label =>
    simp only [ofLabel?]
    split
    · next h => simp [label?, Category.ofLabel?_eq_some_iff.1 h]
    · rfl

end Scope

end SeriesQuery
