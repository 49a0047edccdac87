import SeriesQuery.Proofs.Json.FieldReading
import SeriesQuery.Proofs.Target.Coding

/-!
What a target is read from. Reader and writer meet at a relation between documents and targets: the
text that a target was read from and the text that it writes both stand in it. Labels are in it
letter for letter, and a part has no parameters only where the document gives it none.
-/

namespace SeriesQuery

open Json
open Json.Document (IsText IsTruth Perhaps Lists Gives)

namespace Scope

def unrecognized? : Scope → Option String
  | unrecognized label _ => some label
  | _ => Option.none

/-- A scope is a category or a label, at most one of them, with a label that names no category. -/
theorem exists_iff {category : Option Category} {label : Option String} :
    (∃ scope : Scope, scope.category? = category ∧ scope.unrecognized? = label) ↔
      (category = Option.none ∨ label = Option.none) ∧
        ∀ known : Category, label ≠ some known.label := by
  constructor
  · rintro ⟨scope, rfl, rfl⟩
    cases scope with
    | none => exact ⟨.inl rfl, nofun⟩
    | known category => exact ⟨.inr rfl, nofun⟩
    | unrecognized label unknown =>
      refine ⟨.inl rfl, fun known heq => ?_⟩
      cases heq
      rw [Category.ofLabel?_label] at unknown
      cases unknown
  · rintro ⟨hone, hunknown⟩
    cases label with
    | none => cases category with
      | none => exact ⟨none, rfl, rfl⟩
      | some category => exact ⟨known category, rfl, rfl⟩
    | some label =>
      obtain rfl := hone.resolve_right nofun
      have hlabel : Category.ofLabel? label = Option.none := by
        refine Option.eq_none_iff_forall_ne_some.2 fun known hknown => hunknown known ?_
        rw [Category.ofLabel?_eq_some_iff.1 hknown]
      exact ⟨unrecognized label hlabel, rfl, rfl⟩

end Scope

namespace Tag

/-- The record has in each field what the document gives. -/
structure IsReadFrom (document : Document) (tag : Tag) : Prop where
  key : Gives IsText none (document.field? "key" 0) tag.key
  value : Gives (Perhaps IsText) (some none) (document.field? "value" 1) tag.value
  operator : Gives (Perhaps IsText) (some none) (document.field? "operator" 2) tag.operator
  type : Gives (Perhaps IsText) (some none) (document.field? "type" 3) tag.type
  condition : Gives (Perhaps IsText) (some none) (document.field? "condition" 4) tag.condition

theorem reads : reader.Reads IsReadFrom := by
  intro levels document tag h
  obtain ⟨record, hrecord, rfl⟩ := map_eq_ok_iff.1 h
  obtain ⟨inner, hkey, hvalue, hoperator, htype, hcondition, -⟩ :=
    Fields.readsFrom_of_reader (by simp) (by decide) hrecord
  exact
    { key := hkey.imp fun _ h => Reader.reads_string h
      value := hvalue.imp fun _ h => Reader.reads_string.option h
      operator := hoperator.imp fun _ h => Reader.reads_string.option h
      type := htype.imp fun _ h => Reader.reads_string.option h
      condition := hcondition.imp fun _ h => Reader.reads_string.option h }

end Tag

namespace SavedPart

/-- The text that stands for an item of a list of parameters. -/
inductive IsParam : Document → String → Prop
  | text (text : String) : IsParam (.string (some text)) text
  | number {literal : Literal} {n : Number} (h : literal.toNumber? = some n) :
      IsParam (.number literal) n.text
  | truth (value : Bool) : IsParam (.bool value) (toString value)
  | null : IsParam .null ""

/-- The part has the type that the document gives, the texts of its parameters, and its label. -/
structure IsReadFrom (document : Document) (part : SavedPart) : Prop where
  type : Gives IsText none (document.field? "type" 0) part.type
  params : Gives (Perhaps (Lists IsParam)) (some none) (document.field? "params" 1) part.params
  label : Gives (Perhaps IsText) (some none) (document.field? "categoryName" 2) part.label?

theorem isParam_of_json {levels : Nat} {document : Document} {value : Json} {text : String}
    (hvalue : Reader.sortedJson levels document = .ok value)
    (htext : paramOfJson value = .ok text) : IsParam document text := by
  obtain ⟨value, hread, rfl⟩ := map_eq_ok_iff.1 hvalue
  have hread : document.toJson? levels = some value := by
    unfold Reader.json at hread
    split at hread <;> cases hread
    assumption
  cases document with
  | fault => cases hread
  | null =>
    cases hread
    cases htext
    exact .null
  | bool value =>
    cases hread
    cases value <;> cases htext
    · exact .truth false
    · exact .truth true
  | number literal =>
    obtain ⟨n, hn, rfl⟩ := Option.map_eq_some_iff.1 hread
    cases htext
    exact .number hn
  | string text =>
    obtain ⟨text, rfl, rfl⟩ := Option.map_eq_some_iff.1 hread
    cases htext
    exact .text text
  | array items =>
    cases levels with
    | zero => cases hread
    | succ levels =>
      obtain ⟨values, -, rfl⟩ := Option.map_eq_some_iff.1 hread
      cases htext
  | object fields =>
    cases levels with
    | zero => cases hread
    | succ levels =>
      obtain ⟨values, -, rfl⟩ := Option.map_eq_some_iff.1 hread
      cases htext

theorem reads_params : paramsReader.Reads (Perhaps (Lists IsParam)) := by
  intro levels document params h
  obtain ⟨values, hvalues, hparams⟩ := bind_eq_ok_iff.1 h
  have hread : Perhaps (Lists fun item value => ∃ levels, Reader.sortedJson levels item = .ok value)
      document values :=
    Reader.Reads.option (Reader.Reads.list fun _ _ _ hitem => ⟨_, hitem⟩) hvalues
  obtain ⟨rfl, rfl⟩ | ⟨values, rfl, items, rfl, hitems⟩ := hread
  · cases hparams
    exact .inl ⟨rfl, rfl⟩
  · obtain ⟨texts, htexts, rfl⟩ := map_eq_ok_iff.1 hparams
    refine .inr ⟨texts, rfl, items, rfl, ?_⟩
    refine (forall₂_comp hitems (mapM_eq_ok_iff.1 htexts)).imp ?_
    rintro item text ⟨value, ⟨levels, hvalue⟩, htext⟩
    exact isParam_of_json hvalue htext

theorem reads : reader.Reads IsReadFrom := by
  intro levels document part h
  obtain ⟨record, hrecord, rfl⟩ := map_eq_ok_iff.1 h
  obtain ⟨inner, htype, hparams, hlabel, -⟩ :=
    Fields.readsFrom_of_reader (by simp) (by decide) hrecord
  exact
    { type := htype.imp fun _ h => Reader.reads_string h
      params := hparams.imp fun _ h => reads_params h
      label := by
        dsimp only [label?]
        rw [Scope.label?_ofLabel?]
        exact hlabel.imp fun _ h => Reader.reads_string.option h }

end SavedPart

namespace Target

/-- The target has in each field what the document gives, and the value of an absent field where it
gives nothing. -/
structure IsReadFrom (document : Document) (target : Target) : Prop where
  refId : Gives (Perhaps IsText) (some none) (document.field? "refId" 0) target.refId
  measurement : Gives IsText (some "measurement") (document.field? "measurement" 1)
    target.measurement
  resultFormat : Gives IsText (some "time_series") (document.field? "resultFormat" 2)
    target.resultFormat
  orderByTime : Gives IsText (some "ASC") (document.field? "orderByTime" 3) target.orderByTime
  tags : Gives (Lists Tag.IsReadFrom) (some []) (document.field? "tags" 4) target.tags
  groupBy : Gives (Lists SavedPart.IsReadFrom) (some [.clause "time" (some ["1m"])])
    (document.field? "groupBy" 5) target.groupBy
  select : Gives (Lists (Lists SavedPart.IsReadFrom)) (some [[]]) (document.field? "select" 6)
    target.select
  globalAggregation : Gives (Perhaps IsTruth) (some none) (document.field? "globalAggregation" 7)
    target.globalAggregation
  seriesName : Gives (Perhaps IsText) (some none) (document.field? "alias" 8) target.seriesName
  hide : Gives (Perhaps IsTruth) (some none) (document.field? "hide" 9) target.hide

theorem reads : reader.Reads IsReadFrom := by
  intro levels document target h
  obtain ⟨record, hrecord, rfl⟩ := map_eq_ok_iff.1 h
  obtain ⟨inner, hrefId, hmeasurement, hresultFormat, horderByTime, htags, hgroupBy, hselect,
    hglobalAggregation, hseriesName, hhide, -⟩ :=
    Fields.readsFrom_of_reader (by simp) (by decide) hrecord
  exact
    { refId := hrefId.imp fun _ h => Reader.reads_string.option h
      measurement := hmeasurement.imp fun _ h => Reader.reads_string h
      resultFormat := hresultFormat.imp fun _ h => Reader.reads_string h
      orderByTime := horderByTime.imp fun _ h => Reader.reads_string h
      tags := htags.imp fun _ h => Tag.reads.list h
      groupBy := hgroupBy.imp fun _ h => SavedPart.reads.list h
      select := hselect.imp fun _ h => SavedPart.reads.list.list h
      globalAggregation := hglobalAggregation.imp fun _ h => Reader.reads_bool.option h
      seriesName := hseriesName.imp fun _ h => Reader.reads_string.option h
      hide := hhide.imp fun _ h => Reader.reads_bool.option h }

theorem isReadFrom_of_ofText {source : String} {target : Target} (h : ofText source = .ok target) :
    target.IsReadFrom (Document.ofChars source.toList).1 := by
  obtain ⟨document, rest, hdocument, -, hread⟩ := Reader.exists_document_of_run h
  rw [hdocument]
  exact reads hread

/-- Every target is read back from its text, whatever its parts are scoped to. So a text that is
read as a target and the text that the target writes have in common what targets are read from:
labels, types and parameters stand in the one as they do in the other. -/
theorem ofText_text_exact :
    (∀ (category : Option Category) (label : Option String),
      (∃ scope : Scope, scope.category? = category ∧ scope.unrecognized? = label) ↔
        (category = none ∨ label = none) ∧ ∀ known : Category, label ≠ some known.label) ∧
    (∀ target : Target, ofText target.text = .ok target) ∧
    ∀ (source : String) (target : Target), ofText source = .ok target →
      target.IsReadFrom (Document.ofChars source.toList).1 ∧ ofText target.text = .ok target ∧
        target.IsReadFrom (Document.ofChars target.text.toList).1 := by
  refine ⟨fun _ _ => Scope.exists_iff, ofText_text, fun source target h => ?_⟩
  have hagain : ofText target.text = .ok target := ofText_text target
  exact ⟨isReadFrom_of_ofText h, hagain, isReadFrom_of_ofText hagain⟩

/-- Numbers, a truth value and `null` are read as texts; an unknown label, an empty list of
parameters and an absent one come back as they are, and an unknown field is forgotten. -/
theorem ofText_text_unknown_label :
    let source := "\x7b\"groupBy\":[[\"tag\",[]],[\"fill\"]],\"colour\":[0]," ++
      "\"select\":[[[\"median\",[5,1.50,true,null,\"x\"],\"Math\"]]]\x7d"
    let target : Target :=
      { groupBy := [.clause "tag" (some []), .clause "fill" none]
        select := [[⟨"median", some ["5", "1.5", "true", "", "x"], .unrecognized "Math" rfl⟩]] }
    ofText source = .ok target ∧ target.IsReadFrom (Document.ofChars source.toList).1 ∧
      ofText target.text = .ok target := by
  intro source target
  have hread : ofText source = .ok target := eq_ok_of_toOption (by decide +kernel)
  obtain ⟨-, -, hexact⟩ := ofText_text_exact
  obtain ⟨hfrom, hagain, -⟩ := hexact source target hread
  exact ⟨hread, hfrom, hagain⟩

end Target

end SeriesQuery
