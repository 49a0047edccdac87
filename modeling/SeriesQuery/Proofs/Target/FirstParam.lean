import SeriesQuery.Proofs.Target.Coding
import SeriesQuery.Proofs.Target.Reading

/-!
The first parameter of a saved part whose variables are replaced within its text. Whatever is
inserted behind it, it is read from its own characters: what comes before it is closed.
-/

namespace SeriesQuery

namespace Json

variable {name text body : List Char} {value : Document}

theorem exists_readFields_cons (h : StringBody name text) (n : Nat) (rest : List Char) :
    ∃ others, (readFields (n + 1) ('"' :: (name ++ '"' :: ':' :: rest))).1 =
      (some (.ofList text), (readDocument n rest).1) :: others := by
  rw [readFields, readName_body h]
  dsimp only
  rcases readDocument n rest with ⟨value, _ | after⟩
  · exact ⟨[], rfl⟩
  · dsimp only
    split
    · exact ⟨[], rfl⟩
    · exact ⟨_, rfl⟩
    · exact ⟨_, rfl⟩

theorem readFields_of_comma (h : StringBody name text) {n : Nat} {rest more : List Char}
    (hvalue : readDocument n rest = (value, some (',' :: more))) :
    (readFields (n + 1) ('"' :: (name ++ '"' :: ':' :: rest))).1 =
      (some (.ofList text), value) :: (readFields n more).1 := by
  rw [readFields, readName_body h]
  simp only [hvalue, skipSpace_cons (c := ',') rfl]

theorem exists_readItems_cons (h : StringBody body text) (n : Nat) (rest : List Char) :
    ∃ others, (readItems (n + 2) ('"' :: (body ++ '"' :: rest))).1 =
      .string (some (.ofList text)) :: others := by
  rw [readItems, readDocument_string n (h.readString rest)]
  dsimp only
  split
  · exact ⟨[], rfl⟩
  · exact ⟨_, rfl⟩
  · exact ⟨_, rfl⟩

end Json

namespace Template

theorem stringBody_bodyWith_of_isLiteral (insert : Placeholder → List Char) {text : String}
    (h : IsLiteral text) : Json.StringBody (bodyWith insert text) text.toList := by
  have hbody : Json.StringBody (bodyWith insert text) (insertAll Placeholder.source text.toList) :=
    stringBody_bodyWith fun p hp => absurd hp (h p)
  rwa [insertAll_source] at hbody

end Template

namespace SavedPart

open Json
open Template (IsLiteral bodyWith isLiteral_of_opensNothing stringBody_bodyWith_of_isLiteral)

variable {part read : SavedPart} {literal : String} {more : List String}

theorem exists_charsWith (body : String → List Char)
    (hparams : part.params = some (literal :: more)) :
    ∃ tail, charsWith body part.toJson =
      '{' :: '"' :: (body "type" ++ '"' :: ':' :: '"' :: (body part.type ++ '"' :: ',' ::
        '"' :: (body "params" ++ '"' :: ':' :: '[' :: '"' :: (body literal ++ '"' :: tail)))) := by
  obtain ⟨tail, htail⟩ := exists_itemCharsWith_eq_append body (.string literal) (more.map .string)
  simp only [toJson, hparams, Json.optional, Json.strings, List.map_cons]
  cases part.label? <;>
    simp [charsWith, fieldCharsWith, htail]

/-- The document of such a text has an array with the first parameter under its name. -/
theorem exists_field_params {body : String → List Char} {type meant : List Char}
    (hparams : part.params = some (literal :: more))
    (hnames : ∀ name ∈ ["type", "params"], StringBody (body name) name.toList)
    (htype : StringBody (body part.type) type) (hliteral : StringBody (body literal) meant) :
    ∃ others, (Document.ofChars (charsWith body part.toJson)).1.field? "params" 1 =
      some (.array (.string (some (.ofList meant)) :: others)) := by
  have htypeName : StringBody (body "type") "type".toList := hnames _ (by simp)
  have hparamsName : StringBody (body "params") "params".toList := hnames _ (by simp)
  obtain ⟨tail, htail⟩ := exists_charsWith body hparams
  rw [htail, Document.ofChars]
  generalize hsteps : 2 * _ + 2 = steps
  obtain ⟨n, rfl⟩ : ∃ n, steps = n + 6 := ⟨steps - 6, by simp at hsteps; omega⟩
  have hread := readDocument_string (n + 3) (htype.readString (',' :: '"' :: (body "params" ++
    '"' :: ':' :: '[' :: '"' :: (body literal ++ '"' :: tail))))
  obtain ⟨fields, hfields⟩ := exists_readFields_cons hparamsName (n + 3)
    ('[' :: '"' :: (body literal ++ '"' :: tail))
  obtain ⟨items, hitems⟩ := exists_readItems_cons hliteral n tail
  refine ⟨items, ?_⟩
  rw [readDocument_object, readFields_of_comma htypeName hread, hfields,
    readDocument_array _ (by decide) (by decide), hitems]
  rfl

/-- Whatever is inserted into a part, its first parameter is what its own text stands for. -/
theorem params_of_throughJson {context : Template.Context} {meant : List Char}
    (hshipped : context.IsShipped) (hparams : part.params = some (literal :: more))
    (htype : IsLiteral part.type)
    (hliteral : StringBody (bodyWith (context.inserted none) literal) meant)
    (h : context.throughJson toJson reader part = .ok read) :
    ∃ others, read.params = some (.ofList meant :: others) := by
  obtain ⟨document, rest, hdocument, -, hread⟩ := Reader.exists_document_of_run h
  rw [Template.Context.toList_replace_text hshipped none part.toJson_scannable.spaced] at hdocument
  have hnames : ∀ name ∈ ["type", "params"],
      StringBody (bodyWith (context.inserted none) name) name.toList := by
    intro name hname
    refine stringBody_bodyWith_of_isLiteral _ (isLiteral_of_opensNothing ?_)
    revert name
    decide
  obtain ⟨items, hitems⟩ := exists_field_params hparams hnames
    (stringBody_bodyWith_of_isLiteral _ htype) hliteral
  rw [hdocument] at hitems
  have hfield := (reads hread).params
  rw [hitems] at hfield
  obtain ⟨hnull, -⟩ | ⟨params, hparams, _, harray, hlist⟩ := hfield
  · cases hnull
  · cases harray
    obtain _ | ⟨hfirst, hothers⟩ := hlist
    cases hfirst
    exact ⟨_, hparams⟩

end SavedPart

end SeriesQuery
