import Mathlib.Data.List.Nodup
import SeriesQuery.Catalog.Standard

/-!
Catalogs as they are after any sequence of registrations. The index gives the newest definition of
every key, and the lists show the same definitions, each type once and where it first came in.
-/

namespace SeriesQuery.Catalog

variable {catalog : Catalog} {past : List Definition} {d found : Definition}
  {category : Option Category} {type : String}

/-- A definition has this category and this type. -/
def describes (category : Option Category) (type : String) (d : Definition) : Bool :=
  d.category == category && d.type == type

/-- The types registered in a category, in the order in which they first came in. -/
def typesOf (category : Option Category) (past : List Definition) : List String :=
  ((past.filter (·.category == category)).map (·.type)).eraseDups

/-- A type goes last when it first comes in, and stays where it is later on. -/
theorem typesOf_append (category : Option Category) (past : List Definition) (d : Definition) :
    typesOf category (past ++ [d]) =
      if d.category = category ∧ d.type ∉ typesOf category past then
        typesOf category past ++ [d.type]
      else typesOf category past := by
  by_cases hcategory : d.category = category
  · have hfilter : [d].filter (·.category == category) = [d] := by simp [hcategory]
    simp only [typesOf, List.filter_append, List.map_append, hfilter, List.map_cons, List.map_nil,
      List.eraseDups_append, List.mem_eraseDups, hcategory, true_and]
    split
    · next hnew => simp [List.removeAll, hnew, List.eraseDups_cons]
    · next hold => simp [List.removeAll, not_not.1 hold]
  · simp [typesOf, hcategory]

section

variable (catalog d)

@[simp] theorem index_register_self :
    (catalog.register d).index d.category = file d.type d (catalog.index d.category) :=
  changeAt_self

theorem index_register_of_ne (h : d.category ≠ category) :
    (catalog.register d).index category = catalog.index category :=
  changeAt_of_ne h.symm

theorem listed_register_of_contains (h : catalog.contains d.category d.type) :
    (catalog.register d).listed d.category = relist d (catalog.listed d.category) :=
  changeAt_self.trans (by rw [if_pos h])

theorem listed_register_of_not_contains (h : ¬ catalog.contains d.category d.type) :
    (catalog.register d).listed d.category = catalog.listed d.category ++ [d] :=
  changeAt_self.trans (by rw [if_neg h])

theorem listed_register_of_ne (h : d.category ≠ category) :
    (catalog.register d).listed category = catalog.listed category :=
  changeAt_of_ne h.symm

theorem get?_register (category : Option Category) (type : String) :
    (catalog.register d).get? category type =
      if describes category type d then some d else catalog.get? category type := by
  unfold get?
  by_cases hcategory : d.category = category
  · subst hcategory
    by_cases htype : d.type = type
    · subst htype
      simp [describes]
    · simp [describes, htype, lookup_file_of_ne (Ne.symm htype)]
  · simp [describes, hcategory, index_register_of_ne catalog d hcategory]

end

theorem types_file (type : String) (d : Definition) (entries : List (String × Definition)) :
    (file type d entries).map (·.1) =
      if type ∈ entries.map (·.1) then entries.map (·.1) else entries.map (·.1) ++ [type] := by
  induction entries with
  | nil => rfl
  | cons entry rest ih =>
    obtain ⟨key, old⟩ := entry
    by_cases hkey : key = type
    · simp [file, hkey]
    · have hne : ¬ type = key := Ne.symm hkey
      simp only [file, if_neg hkey, List.map_cons, ih, List.mem_cons, hne, false_or]
      split <;> rfl

theorem relist_cons (d old : Definition) (rest : List Definition) :
    relist d (old :: rest) = if old.type = d.type then d :: rest else old :: relist d rest := by
  by_cases hold : old.type = d.type
  · simp [relist, List.findIdx_cons, hold]
  · have hne : (old.type == d.type) = false := by simpa using hold
    simp [relist, List.findIdx_cons, hne, hold]

theorem types_relist (d : Definition) (list : List Definition) :
    (relist d list).map (·.type) = list.map (·.type) := by
  induction list with
  | nil => rfl
  | cons old rest ih =>
    rw [relist_cons]
    split
    · next hold => simp [hold]
    · simp [ih]

/-- In a list that has every type once, the new definition becomes the only one of its type. -/
theorem mem_relist {list : List Definition} (honce : (list.map (·.type)).Nodup)
    (h : found ∈ relist d list) : found = d ∨ found ∈ list ∧ found.type ≠ d.type := by
  induction list with
  | nil => cases h
  | cons old rest ih =>
    rw [List.map_cons, List.nodup_cons] at honce
    rw [relist_cons] at h
    split at h
    · next hold =>
      rcases List.mem_cons.1 h with rfl | h
      · exact .inl rfl
      · refine .inr ⟨List.mem_cons_of_mem _ h, fun htype => honce.1 ?_⟩
        rw [hold, ← htype]
        exact List.mem_map_of_mem h
    · next hold =>
      rcases List.mem_cons.1 h with rfl | h
      · exact .inr ⟨List.mem_cons_self, hold⟩
      · rcases ih honce.2 h with rfl | ⟨hmem, htype⟩
        · exact .inl rfl
        · exact .inr ⟨List.mem_cons_of_mem _ hmem, htype⟩

/-- Index and lists of a catalog hold what was registered in the past. -/
structure Holds (catalog : Catalog) (past : List Definition) : Prop where
  get?_eq : ∀ category type,
    catalog.get? category type = past.reverse.find? (describes category type)
  types_index : ∀ category, (catalog.index category).map (·.1) = typesOf category past
  types_listed : ∀ category, (catalog.listed category).map (·.type) = typesOf category past
  once : ∀ category, (typesOf category past).Nodup
  get?_of_mem : ∀ {category}, ∀ d ∈ catalog.listed category, catalog.get? category d.type = some d

theorem holds_empty : Holds empty [] where
  get?_eq _ _ := rfl
  types_index _ := rfl
  types_listed _ := rfl
  once _ := List.nodup_nil
  get?_of_mem _ h := by cases h

theorem Holds.contains_iff (h : Holds catalog past) :
    catalog.contains category type ↔ type ∈ typesOf category past := by
  rw [← h.types_index]
  simp [contains, get?, List.lookup_isSome_iff]

theorem Holds.once_register (h : Holds catalog past) (d : Definition)
    (category : Option Category) : (typesOf category (past ++ [d])).Nodup := by
  have honce := h.once category
  rw [typesOf_append]
  split
  · next hnew =>
    rw [← List.concat_eq_append]
    exact honce.concat hnew.2
  · exact honce

theorem Holds.types_index_register (h : Holds catalog past) (d : Definition)
    (category : Option Category) :
    ((catalog.register d).index category).map (·.1) = typesOf category (past ++ [d]) := by
  rw [typesOf_append]
  by_cases hcategory : d.category = category
  · subst hcategory
    rw [index_register_self, types_file, h.types_index]
    by_cases htype : d.type ∈ typesOf d.category past <;> simp [htype]
  · rw [index_register_of_ne _ _ hcategory, h.types_index, if_neg fun hnew => hcategory hnew.1]

theorem Holds.types_listed_register (h : Holds catalog past) (d : Definition)
    (category : Option Category) :
    ((catalog.register d).listed category).map (·.type) = typesOf category (past ++ [d]) := by
  rw [typesOf_append]
  by_cases hcategory : d.category = category
  · subst hcategory
    by_cases hknown : catalog.contains d.category d.type
    · have htype := h.contains_iff.1 hknown
      rw [listed_register_of_contains _ _ hknown, types_relist, h.types_listed,
        if_neg fun hnew => hnew.2 htype]
    · have htype := mt h.contains_iff.2 hknown
      rw [listed_register_of_not_contains _ _ hknown, List.map_append, h.types_listed,
        if_pos ⟨rfl, htype⟩]
      rfl
  · rw [listed_register_of_ne _ _ hcategory, h.types_listed, if_neg fun hnew => hcategory hnew.1]

/-- The definitions listed after a registration are the new one and those of other keys. -/
theorem Holds.mem_listed_register (h : Holds catalog past)
    (hfound : found ∈ (catalog.register d).listed category) :
    found = d ∧ d.category = category ∨
      found ∈ catalog.listed category ∧ ¬ describes category found.type d := by
  by_cases hcategory : d.category = category
  · subst hcategory
    by_cases hknown : catalog.contains d.category d.type
    · rw [listed_register_of_contains _ _ hknown] at hfound
      have honce : ((catalog.listed d.category).map (·.type)).Nodup := by
        rw [h.types_listed]
        exact h.once d.category
      rcases mem_relist honce hfound with rfl | ⟨hmem, htype⟩
      · exact .inl ⟨rfl, rfl⟩
      · exact .inr ⟨hmem, by simpa [describes] using Ne.symm htype⟩
    · rw [listed_register_of_not_contains _ _ hknown] at hfound
      rcases List.mem_append.1 hfound with hmem | hmem
      · refine .inr ⟨hmem, fun hdescribes => hknown ?_⟩
        have htype : d.type = found.type := by simpa [describes] using hdescribes
        rw [h.contains_iff, htype, ← h.types_listed]
        exact List.mem_map_of_mem hmem
      · exact .inl ⟨List.mem_singleton.1 hmem, rfl⟩
  · rw [listed_register_of_ne _ _ hcategory] at hfound
    exact .inr ⟨hfound, by simp [describes, hcategory]⟩

/-- A registration keeps index and lists together. -/
theorem Holds.register (h : Holds catalog past) (d : Definition) :
    Holds (catalog.register d) (past ++ [d]) where
  get?_eq category type := by
    rw [get?_register, h.get?_eq]
    by_cases hd : describes category type d <;> simp [hd]
  types_index := h.types_index_register d
  types_listed := h.types_listed_register d
  once := h.once_register d
  get?_of_mem {category} found hfound := by
    rw [get?_register]
    rcases h.mem_listed_register hfound with ⟨rfl, rfl⟩ | ⟨hmem, hother⟩
    · simp [describes]
    · rw [if_neg hother]
      exact h.get?_of_mem found hmem

theorem Holds.foldl_register (h : Holds catalog past) (definitions : List Definition) :
    Holds (definitions.foldl Catalog.register catalog) (past ++ definitions) := by
  induction definitions generalizing catalog past with
  | nil => rwa [List.append_nil]
  | cons d rest ih =>
    have hrest := ih (h.register d)
    rwa [List.append_assoc] at hrest

theorem holds_standard : Holds standard standardDefinitions :=
  holds_empty.foldl_register standardDefinitions

theorem Holds.mem_listed_iff (h : Holds catalog past) :
    d ∈ catalog.listed category ↔ catalog.get? category d.type = some d := by
  refine ⟨h.get?_of_mem d, fun hd => ?_⟩
  have hcontains : catalog.contains category d.type := by rw [contains, hd]; rfl
  rw [h.contains_iff, ← h.types_listed] at hcontains
  obtain ⟨found, hfound, htype⟩ := List.mem_map.1 hcontains
  have hsame := h.get?_of_mem found hfound
  rw [htype, hd] at hsame
  cases hsame
  exact hfound

theorem Holds.size_eq (h : Holds catalog past) :
    catalog.size = (catalog.functions ++ Category.all.flatMap catalog.ofCategory).length := by
  have hlength (category : Option Category) :
      (catalog.index category).length = (catalog.listed category).length := by
    have htypes := (h.types_index category).trans (h.types_listed category).symm
    simpa using congrArg List.length htypes
  simp only [size, List.flatMap_cons, List.flatMap_map, List.length_append, List.length_flatMap,
    hlength]
  rfl

/-- Index and lists of a catalog agree about the past: the index gives what was registered last
under a key, and the lists show it, in the order in which their types first came in. -/
structure Agrees (catalog : Catalog) (past : List Definition) : Prop where
  get?_eq : ∀ category type,
    catalog.get? category type = past.reverse.find? (describes category type)
  key_of_get? : ∀ {category type d}, catalog.get? category type = some d →
    d.category = category ∧ d.type = type
  types_listed : ∀ category, (catalog.listed category).map (·.type) = typesOf category past
  once : ∀ category, ((catalog.listed category).map (·.type)).Nodup
  mem_listed_iff : ∀ {category d},
    d ∈ catalog.listed category ↔ catalog.get? category d.type = some d
  size_eq : catalog.size = (catalog.functions ++ Category.all.flatMap catalog.ofCategory).length

theorem Holds.agrees (h : Holds catalog past) : Agrees catalog past where
  get?_eq := h.get?_eq
  key_of_get? hd := catalog.keyed hd
  types_listed := h.types_listed
  once category := by
    rw [h.types_listed]
    exact h.once category
  mem_listed_iff := h.mem_listed_iff
  size_eq := h.size_eq

/-- Whatever is registered, in an empty catalog or behind the standard definitions, index and lists
agree about it. -/
theorem foldl_register_agrees (definitions : List Definition) :
    Agrees (definitions.foldl register empty) definitions ∧
      Agrees (definitions.foldl register standard) (standardDefinitions ++ definitions) :=
  ⟨(holds_empty.foldl_register definitions).agrees,
    (holds_standard.foldl_register definitions).agrees⟩

end SeriesQuery.Catalog
