import SeriesQuery.Json.Record
import SeriesQuery.Proofs.Json.Reading
import SeriesQuery.Proofs.Result

/-!
Records that are read back from what is written. An object that has the fields of a record in their
order, but for those that have their value also when they are absent, is read as the record.
-/

namespace SeriesQuery.Json

variable {α ρ : Type} {levels : Nat}

/-- What is written for each item of a list is read back as the list. -/
theorem Reader.list_ofJson {encode : α → Json} {reader : Reader α} {values : List α}
    (h : ∀ value ∈ values, reader levels (.ofJson (encode value)) = .ok value) :
    Reader.list reader (levels + 1) (.ofJson (.array (values.map encode))) = .ok values := by
  rw [Document.ofJson, Document.ofItems_eq_map, List.map_map]
  exact mapM_map_eq_pure h

namespace Fields

def names {ρ : Type} : Fields ρ → List String
  | .done => []
  | .field name _ _ _ rest => name :: rest.names

/-- These entries write this record: each field is there in its turn, or it is absent and has the
value that an absent one has. -/
inductive Writes (levels : Nat) :
    {ρ : Type} → Fields ρ → List (Option String × Document) → ρ → Prop
  | done : Writes levels .done [] ()
  | present {α ρ : Type} {name : String} {reader : Reader α} {absent : Option α} {rest : Fields ρ}
      {document : Document} {entries : List (Option String × Document)} {value : α} {record : ρ}
      (hvalue : reader levels document = .ok value) (hrest : Writes levels rest entries record) :
      Writes levels (.field name reader absent none rest) ((some name, document) :: entries)
        (value, record)
  | absent {α ρ : Type} {name : String} {reader : Reader α} {rest : Fields ρ}
      {entries : List (Option String × Document)} {value : α} {record : ρ}
      (hrest : Writes levels rest entries record) :
      Writes levels (.field name reader (some value) none rest) entries (value, record)

theorem Writes.optional {name : String} {encode : α → Json} {reader : Reader (Option α)}
    {rest : Fields ρ} {fields : List (String × Json)} {value : Option α} {record : ρ}
    (hvalue : ∀ a ∈ value, reader levels (.ofJson (encode a)) = .ok (some a))
    (hrest : Writes levels rest (Document.ofFields fields) record) :
    Writes levels (.defaulted name reader none rest)
      (Document.ofFields (Json.optional name encode value ++ fields)) (value, record) := by
  cases value with
  | none => exact .absent hrest
  | some a => exact .present (hvalue a rfl) hrest

theorem Writes.optional_done {name : String} {encode : α → Json} {reader : Reader (Option α)}
    {value : Option α}
    (hvalue : ∀ a ∈ value, reader levels (.ofJson (encode a)) = .ok (some a)) :
    Writes levels (.defaulted name reader none .done)
      (Document.ofFields (Json.optional name encode value)) (value, ()) := by
  rw [← List.append_nil (Json.optional name encode value)]
  exact .optional hvalue .done

variable {entries : List (Option String × Document)}

theorem Writes.exists_name {ρ : Type} {fields : Fields ρ}
    {entries : List (Option String × Document)} {record : ρ}
    (h : Writes levels fields entries record) :
    ∀ entry ∈ entries, ∃ name ∈ fields.names, entry.1 = some name := by
  induction h with
  | done => simp
  | @present _ _ name _ _ _ _ _ _ _ _ _ ih =>
    intro entry hentry
    rcases List.mem_cons.1 hentry with rfl | hentry
    · exact ⟨name, List.mem_cons_self, rfl⟩
    · obtain ⟨other, hother, hname⟩ := ih entry hentry
      exact ⟨other, List.mem_cons_of_mem _ hother, hname⟩
  | absent _ ih =>
    intro entry hentry
    obtain ⟨other, hother, hname⟩ := ih entry hentry
    exact ⟨other, List.mem_cons_of_mem _ hother, hname⟩

theorem Writes.ne_of_mem {name : String} {fields : Fields ρ} {record : ρ}
    (h : Writes levels fields entries record) (hname : name ∉ fields.names) :
    ∀ entry ∈ entries, ∃ other, name ≠ other ∧ entry.1 = some other := by
  intro entry hentry
  obtain ⟨other, hother, hentry⟩ := h.exists_name entry hentry
  exact ⟨other, fun heq => hname (heq ▸ hother), hentry⟩

theorem takeAll_field {name : String} {reader : Reader α} {absent read : Option α}
    {rest : Fields ρ} (h : ∀ entry ∈ entries, ∃ other, name ≠ other ∧ entry.1 = some other) :
    takeAll levels (.field name reader absent read rest) entries =
      (takeAll levels rest entries).map (.field name reader absent read) := by
  induction entries generalizing rest with
  | nil => rfl
  | cons entry entries ih =>
    obtain ⟨⟨other, hne, hentry⟩, hentries⟩ := List.forall_mem_cons.1 h
    obtain ⟨_, document⟩ := entry
    subst hentry
    have htake : take levels other document (.field name reader absent read rest) =
        (take levels other document rest).map (.field name reader absent read) := by
      simp only [take, if_neg hne.symm]
    rw [takeAll, takeAll, htake]
    cases take levels other document rest with
    | error refusal => rfl
    | ok taken => exact ih hentries

theorem Writes.takeAll_finish {ρ : Type} {fields : Fields ρ}
    {entries : List (Option String × Document)} {record : ρ}
    (h : Writes levels fields entries record) (hnames : fields.names.Nodup) :
    ∃ taken, takeAll levels fields entries = .ok taken ∧ taken.finish = .ok record := by
  induction h with
  | done => exact ⟨.done, rfl, rfl⟩
  | @present α ρ name reader absent rest document entries value record hvalue hrest ih =>
    obtain ⟨hname, hnames⟩ := List.nodup_cons.1 hnames
    obtain ⟨taken, htaken, hfinish⟩ := ih hnames
    have htake : take levels name document (.field name reader absent none rest) =
        .ok (.field name reader absent (some value) rest) := by
      simp only [take, if_pos, hvalue, Except.map]
    refine ⟨.field name reader absent (some value) taken, ?_, by simp [finish, hfinish, Except.map]⟩
    rw [takeAll, htake]
    change takeAll levels (.field name reader absent (some value) rest) entries = _
    rw [takeAll_field (hrest.ne_of_mem hname), htaken]
    rfl
  | @absent α ρ name reader rest entries value record hrest ih =>
    obtain ⟨hname, hnames⟩ := List.nodup_cons.1 hnames
    obtain ⟨taken, htaken, hfinish⟩ := ih hnames
    refine ⟨.field name reader (some value) none taken, ?_, by simp [finish, hfinish, Except.map]⟩
    rw [takeAll_field (hrest.ne_of_mem hname), htaken]
    rfl

/-- A record is read from the object that writes it, if its fields have different names. -/
theorem Writes.reader_ofJson {β : Type} {fields : Fields ρ} {entries : List (String × Json)}
    {record : ρ} (h : Writes levels fields (Document.ofFields entries) record)
    (hnames : fields.names.Nodup) (f : ρ → β) :
    fields.reader.map f (levels + 1) (.ofJson (.object entries)) = .ok (f record) := by
  obtain ⟨taken, htaken, hfinish⟩ := h.takeAll_finish hnames
  rw [Document.ofJson, Reader.map, Fields.reader, htaken]
  exact congrArg (Except.map f) hfinish

end Fields

end SeriesQuery.Json
