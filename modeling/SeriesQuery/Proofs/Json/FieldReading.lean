import SeriesQuery.Proofs.Json.Records

/-!
What a record is read from. Whether a record is given as an object or as an array, each of its
fields is read from the one document that stands for it, or takes the value of an absent field.
-/

namespace SeriesQuery.Json

variable {α ρ : Type} {levels : Nat} {document : Document}

namespace Document

/-- A text, letter for letter. -/
def IsText (document : Document) (text : String) : Prop :=
  document = .string (some text)

def IsTruth (document : Document) (value : Bool) : Prop :=
  document = .bool value

/-- No value for `null`. -/
def Perhaps (R : Document → α → Prop) (document : Document) (value : Option α) : Prop :=
  (document = .null ∧ value = none) ∨ ∃ a, value = some a ∧ R document a

/-- One value for each item of an array, in their order. -/
def Lists (R : Document → α → Prop) (document : Document) (values : List α) : Prop :=
  ∃ items, document = .array items ∧ List.Forall₂ R items values

/-- The value of a field that may be absent. -/
def Gives (R : Document → α → Prop) (absent : Option α) : Option Document → α → Prop
  | some document, value => R document value
  | none, value => absent = some value

theorem Gives.imp {R S : Document → α → Prop} {absent : Option α} {found : Option Document}
    {value : α} (himp : ∀ document, R document value → S document value)
    (h : Gives R absent found value) : Gives S absent found value := by
  cases found with
  | some document => exact himp document h
  | none => exact h

end Document

namespace Reader

/-- Whatever is read stands in this relation to its document. -/
def Reads (reader : Reader α) (R : Document → α → Prop) : Prop :=
  ∀ ⦃levels document value⦄, reader levels document = .ok value → R document value

theorem reads_string : Reader.string.Reads Document.IsText := by
  intro levels document text h
  unfold Reader.string at h
  split at h <;> cases h
  rfl

theorem reads_bool : Reader.bool.Reads Document.IsTruth := by
  intro levels document value h
  unfold Reader.bool at h
  split at h <;> cases h
  rfl

variable {reader : Reader α} {R : Document → α → Prop}

theorem Reads.option (hreads : reader.Reads R) : reader.option.Reads (Document.Perhaps R) := by
  intro levels document value h
  unfold Reader.option at h
  split at h
  · cases h
    exact .inl ⟨rfl, rfl⟩
  · obtain ⟨a, ha, rfl⟩ := map_eq_ok_iff.1 h
    exact .inr ⟨a, rfl, hreads ha⟩

theorem Reads.list (hreads : reader.Reads R) : reader.list.Reads (Document.Lists R) := by
  intro levels document values h
  unfold Reader.list at h
  split at h
  · next items => exact ⟨items, rfl, (mapM_eq_ok_iff.1 h).imp fun _ _ hitem => hreads hitem⟩
  · cases h

end Reader

/-- The document that stands for a field of a record: in an object the one under the name of the
field, in an array the one in its place. -/
def Document.field? (name : String) (place : Nat) : Document → Option Document
  | .object entries => entries.lookup (some name)
  | .array items => items[place]?
  | _ => none

namespace Fields

/-- Nothing has been read yet. -/
def Unread {ρ : Type} : Fields ρ → Prop
  | .done => True
  | .field _ _ _ read rest => read = none ∧ rest.Unread

section Unread

variable {name : String} {reader : Reader α} {rest : Fields ρ}

@[simp] theorem unread_done : Fields.done.Unread := trivial

@[simp] theorem unread_required : (required name reader rest).Unread ↔ rest.Unread :=
  and_iff_right rfl

@[simp] theorem unread_defaulted {absent : α} :
    (defaulted name reader absent rest).Unread ↔ rest.Unread :=
  and_iff_right rfl

@[simp] theorem unread_optional : (optional name reader rest).Unread ↔ rest.Unread :=
  and_iff_right rfl

end Unread

/-- Each field from a place on is read from what is found for it, or it has the value that it has
when it is absent. -/
def ReadsFrom (levels : Nat) (find : String → Nat → Option Document) {ρ : Type} (place : Nat) :
    Fields ρ → ρ → Prop
  | .done, _ => True
  | .field name reader absent _ rest, (value, record) =>
    Document.Gives (reader levels · = .ok ·) absent (find name place) value ∧
      ReadsFrom levels find (place + 1) rest record

/-- The entries of an object besides those with this name. -/
def others (name : String) (entries : List (Option String × Document)) :
    List (Option String × Document) :=
  entries.filter (·.1 != some name)

theorem others_cons_self (name : String) (document : Document)
    (entries : List (Option String × Document)) :
    others name ((some name, document) :: entries) = others name entries :=
  List.filter_cons_of_neg (by simp)

theorem others_cons_of_ne {name : String} {key : Option String} (h : key ≠ some name)
    (document : Document) (entries : List (Option String × Document)) :
    others name ((key, document) :: entries) = (key, document) :: others name entries :=
  List.filter_cons_of_pos (by simpa using h)

theorem lookup_others {name other : String} (h : other ≠ name)
    (entries : List (Option String × Document)) :
    (others name entries).lookup (some other) = entries.lookup (some other) := by
  induction entries with
  | nil => rfl
  | cons entry entries ih =>
    obtain ⟨key, document⟩ := entry
    by_cases hkey : key = some name
    · subst hkey
      have hne : (some other == some name) = false := by simpa using h
      rw [others_cons_self, List.lookup_cons, hne]
      exact ih
    · rw [others_cons_of_ne hkey, List.lookup_cons, List.lookup_cons, ih]

theorem takeAll_field_eq_ok {name : String} {reader : Reader α} {absent read : Option α}
    {rest : Fields ρ} {taken : Fields (α × ρ)} {entries : List (Option String × Document)}
    (h : takeAll levels (.field name reader absent read rest) entries = .ok taken) :
    ∃ read' rest', taken = .field name reader absent read' rest' ∧
      takeAll levels rest (others name entries) = .ok rest' ∧
      match entries.lookup (some name) with
      | some document => read = none ∧ ∃ value, reader levels document = .ok value ∧
          read' = some value
      | none => read' = read := by
  induction entries generalizing read rest with
  | nil =>
    cases h
    exact ⟨read, rest, rfl, rfl, rfl⟩
  | cons entry entries ih =>
    obtain ⟨_ | key, document⟩ := entry
    · cases h
    rw [takeAll] at h
    obtain ⟨next, htake, h⟩ := bind_eq_ok_iff.1 h
    by_cases hkey : key = name
    · subst hkey
      simp only [take, if_true] at htake
      cases read with
      | some _ => cases htake
      | none =>
        obtain ⟨value, hvalue, rfl⟩ := map_eq_ok_iff.1 htake
        obtain ⟨read', rest', htaken, hrest, hread⟩ := ih h
        refine ⟨read', rest', htaken, by rwa [others_cons_self], ?_⟩
        -- A second entry of the name would have been refused.
        cases hlookup : entries.lookup (some key) with
        | some _ =>
          rw [hlookup] at hread
          cases hread.1
        | none =>
          rw [hlookup] at hread
          simpa using ⟨value, hvalue, hread⟩
    · simp only [take, if_neg hkey] at htake
      obtain ⟨next', hnext, rfl⟩ := map_eq_ok_iff.1 htake
      obtain ⟨read', rest', htaken, hrest, hread⟩ := ih h
      refine ⟨read', rest', htaken, ?_, ?_⟩
      · rw [others_cons_of_ne (by simpa using hkey), takeAll, hnext]
        exact hrest
      · have hne : (some name == some key) = false := by simpa using Ne.symm hkey
        rw [List.lookup_cons, hne]
        exact hread

theorem readsFrom_of_takeAll {find : String → Nat → Option Document} {ρ : Type} {fields : Fields ρ}
    {place : Nat} {entries : List (Option String × Document)} {taken : Fields ρ} {record : ρ}
    (hunread : fields.Unread) (hnames : fields.names.Nodup)
    (hfind : ∀ name ∈ fields.names, ∀ place, find name place = entries.lookup (some name))
    (htake : takeAll levels fields entries = .ok taken) (hfinish : taken.finish = .ok record) :
    fields.ReadsFrom levels find place record := by
  induction fields generalizing place entries with
  | done => trivial
  | field name reader absent read rest ih =>
    obtain ⟨rfl, hunread⟩ := hunread
    obtain ⟨hname, hnames⟩ := List.nodup_cons.1 hnames
    obtain ⟨read', rest', rfl, hrest, hread⟩ := takeAll_field_eq_ok htake
    rw [finish] at hfinish
    split at hfinish
    · next value hvalue =>
      obtain ⟨record', hrecord, rfl⟩ := map_eq_ok_iff.1 hfinish
      refine ⟨?_, ih hunread hnames (fun other hother place => ?_) hrest hrecord⟩
      · rw [hfind name List.mem_cons_self]
        cases hlookup : entries.lookup (some name) with
        | some document =>
          rw [hlookup] at hread
          obtain ⟨-, found, hfound, rfl⟩ := hread
          cases hvalue
          exact hfound
        | none =>
          rw [hlookup] at hread
          rw [hread, Option.none_or] at hvalue
          exact hvalue
      · have hne : other ≠ name := fun heq => hname (heq ▸ hother)
        rw [lookup_others hne, hfind other (List.mem_cons_of_mem _ hother)]
    · cases hfinish

theorem readsFrom_of_ofItems {surplus : Bool} {items : List Document} {ρ : Type}
    {fields : Fields ρ} {place : Nat} {record : ρ}
    (h : ofItems surplus levels fields (items.drop place) = .ok record) :
    fields.ReadsFrom levels (fun _ place => items[place]?) place record := by
  induction fields generalizing place with
  | done => trivial
  | field name reader absent read rest ih =>
    cases hitems : items.drop place with
    | nil =>
      rw [hitems, ofItems.eq_def] at h
      dsimp only at h
      split at h
      · next value =>
        obtain ⟨record', hrecord, rfl⟩ := map_eq_ok_iff.1 h
        have hend : items.length ≤ place := List.drop_eq_nil_iff.1 hitems
        have hnext : items.drop (place + 1) = [] := List.drop_eq_nil_iff.2 (by omega)
        refine ⟨?_, ih (hnext ▸ hrecord)⟩
        dsimp only
        rw [List.getElem?_eq_none hend]
        rfl
      · cases h
    | cons item after =>
      rw [hitems, ofItems] at h
      obtain ⟨value, hvalue, h⟩ := bind_eq_ok_iff.1 h
      obtain ⟨record', hrecord, rfl⟩ := map_eq_ok_iff.1 h
      have hitem : items[place]? = some item := by
        rw [← List.head?_drop, hitems, List.head?_cons]
      have hnext : items.drop (place + 1) = after := by
        rw [← List.tail_drop, hitems, List.tail_cons]
      refine ⟨?_, ih (hnext ▸ hrecord)⟩
      dsimp only
      rw [hitem]
      exact hvalue

/-- Whatever is read as a record has its fields read from the documents that stand for them, some
levels further down. -/
theorem readsFrom_of_reader {fields : Fields ρ} {surplus : Bool} {record : ρ}
    (hunread : fields.Unread) (hnames : fields.names.Nodup)
    (h : fields.reader surplus levels document = .ok record) :
    ∃ inner, fields.ReadsFrom inner (fun name place => document.field? name place) 0 record := by
  unfold Fields.reader at h
  split at h
  · next inner entries =>
    cases htake : fields.takeAll inner entries with
    | error _ =>
      rw [htake] at h
      cases h
    | ok taken =>
      rw [htake] at h
      exact ⟨inner, readsFrom_of_takeAll hunread hnames (fun _ _ _ => rfl) htake h⟩
  · next inner items => exact ⟨inner, readsFrom_of_ofItems h⟩
  · cases h

end Fields

end SeriesQuery.Json
