import SeriesQuery.Catalog.Part
import SeriesQuery.Target.Basic

/-!
Catalogs of part definitions: an index by category and type, and beside it the lists that editors
offer for every category and for the functions, which belong to none.
-/

namespace SeriesQuery

namespace Catalog

/-- Files a definition under a type, in the place of the one that is there. -/
def file (type : String) (d : Definition) : List (String × Definition) → List (String × Definition)
  | [] => [(type, d)]
  | (key, old) :: rest =>
    if key = type then (key, d) :: rest else (key, old) :: file type d rest

@[simp] theorem lookup_file_self (type : String) (d : Definition)
    (entries : List (String × Definition)) : (file type d entries).lookup type = some d := by
  induction entries with
  | nil => simp [file]
  | cons entry rest ih =>
    obtain ⟨key, old⟩ := entry
    by_cases hkey : key = type
    · simp [file, hkey]
    · have hne : (type == key) = false := by simpa using Ne.symm hkey
      simp [file, hkey, List.lookup_cons, hne, ih]

theorem lookup_file_of_ne {type other : String} (h : other ≠ type) (d : Definition)
    (entries : List (String × Definition)) :
    (file type d entries).lookup other = entries.lookup other := by
  have hne : (other == type) = false := by simpa using h
  induction entries with
  | nil => simp [file, List.lookup_cons, hne]
  | cons entry rest ih =>
    obtain ⟨key, old⟩ := entry
    by_cases hkey : key = type
    · simp [file, hkey, List.lookup_cons, hne]
    · simp [file, hkey, List.lookup_cons, ih]

/-- Puts a definition into a list in the place of the first one of its type. -/
def relist (d : Definition) (list : List Definition) : List Definition :=
  list.set (list.findIdx (·.type == d.type)) d

def changeAt {α : Type} (category : Option Category) (change : α → α)
    (values : Option Category → α) : Option Category → α :=
  fun other => if other = category then change (values other) else values other

variable {α : Type} {category : Option Category} {change : α → α} {values : Option Category → α}

@[simp] theorem changeAt_self :
    changeAt category change values category = change (values category) :=
  if_pos rfl

theorem changeAt_of_ne {other : Option Category} (h : other ≠ category) :
    changeAt category change values other = values other :=
  if_neg h

end Catalog

structure Catalog where
  /-- The definitions of a category, or the functions, under their types. -/
  index : Option Category → List (String × Definition)
  /-- The definitions of a category, or the functions, as editors list them. -/
  listed : Option Category → List Definition
  /-- A definition is found under its own category and type. -/
  keyed : ∀ {category : Option Category} {type : String} {d : Definition},
    (index category).lookup type = some d → d.category = category ∧ d.type = type

namespace Catalog

def empty : Catalog where
  index _ := []
  listed _ := []
  keyed h := by cases h

def get? (catalog : Catalog) (category : Option Category) (type : String) : Option Definition :=
  (catalog.index category).lookup type

def contains (catalog : Catalog) (category : Option Category) (type : String) : Bool :=
  (catalog.get? category type).isSome

/-- Adds a definition; one of the same category and type gives its place to it. -/
def register (catalog : Catalog) (d : Definition) : Catalog where
  index := changeAt d.category (file d.type d) catalog.index
  listed := changeAt d.category
    (if catalog.contains d.category d.type then relist d else (· ++ [d])) catalog.listed
  keyed {category type found} h := by
    by_cases hcategory : category = d.category
    · subst hcategory
      by_cases htype : type = d.type
      · subst htype
        simp only [changeAt_self, lookup_file_self, Option.some.injEq] at h
        exact ⟨congrArg _ h.symm, congrArg _ h.symm⟩
      · rw [changeAt_self, lookup_file_of_ne htype] at h
        exact catalog.keyed h
    · rw [changeAt_of_ne hcategory] at h
      exact catalog.keyed h

def ofCategory (catalog : Catalog) (category : Category) : List Definition :=
  catalog.listed (some category)

def functions (catalog : Catalog) : List Definition :=
  catalog.listed none

def size (catalog : Catalog) : Nat :=
  ((none :: Category.all.map some).flatMap catalog.index).length

/-- The definition of a saved part. A label that names no category leads to none. -/
def resolve? (catalog : Catalog) (saved : SavedPart) : Option Definition :=
  match saved.scope with
  | .none => catalog.get? none saved.type
  | .known category => catalog.get? (some category) saved.type
  | .unrecognized .. => none

def bind (catalog : Catalog) (saved : SavedPart) : Except Error Part :=
  match catalog.resolve? saved with
  | some d => .ok (.bind d saved)
  | none => .error (.partNotFound saved.type saved.label?)

/-- Every part of a target has a definition; the first without one is named, clauses before
pipelines. -/
def validate (catalog : Catalog) (target : Target) : Except Error Unit :=
  (target.groupBy ++ target.select.flatten).forM fun saved => (catalog.bind saved).map fun _ => ()

end Catalog

end SeriesQuery
