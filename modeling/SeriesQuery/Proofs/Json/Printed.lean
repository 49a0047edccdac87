import SeriesQuery.Json.Reader
import SeriesQuery.Proofs.Json.NumberLiteral
import SeriesQuery.Proofs.Json.StringBody

/-!
The reading of printed values. A value whose strings are printed with any bodies that stand for some
texts is read as the value with those texts.
-/

namespace SeriesQuery.Json

mutual

/-- The value with another text for each of its strings, names of fields among them. -/
def mapText (g : String → String) : Json → Json
  | .string text => .string (g text)
  | .array items => .array (mapTextItems g items)
  | .object fields => .object (mapTextFields g fields)
  | value => value

def mapTextItems (g : String → String) : List Json → List Json
  | [] => []
  | item :: rest => mapText g item :: mapTextItems g rest

def mapTextFields (g : String → String) : List (String × Json) → List (String × Json)
  | [] => []
  | (name, value) :: rest => (g name, mapText g value) :: mapTextFields g rest

end

mutual

/-- The strings of a value, names of fields among them. -/
def texts : Json → List String
  | .string text => [text]
  | .array items => itemTexts items
  | .object fields => fieldTexts fields
  | _ => []

def itemTexts : List Json → List String
  | [] => []
  | item :: rest => texts item ++ itemTexts rest

def fieldTexts : List (String × Json) → List String
  | [] => []
  | (name, value) :: rest => name :: (texts value ++ fieldTexts rest)

end

mutual

/-- How many arrays and objects of a value lie within each other. -/
def depth : Json → Nat
  | .array items => itemDepth items + 1
  | .object fields => fieldDepth fields + 1
  | _ => 0

def itemDepth : List Json → Nat
  | [] => 0
  | item :: rest => max (depth item) (itemDepth rest)

def fieldDepth : List (String × Json) → Nat
  | [] => 0
  | (_, value) :: rest => max (depth value) (fieldDepth rest)

end

mutual

/-- A value as it is printed, with the given characters between the quotes of its strings. -/
def charsWith (body : String → List Char) : Json → List Char
  | .string text => '"' :: body text ++ ['"']
  | .array items => '[' :: itemCharsWith body items ++ [']']
  | .object fields => '{' :: fieldCharsWith body fields ++ ['}']
  | value => value.chars

def itemCharsWith (body : String → List Char) : List Json → List Char
  | [] => []
  | [item] => charsWith body item
  | item :: rest => charsWith body item ++ ',' :: itemCharsWith body rest

def fieldCharsWith (body : String → List Char) : List (String × Json) → List Char
  | [] => []
  | [(name, value)] => '"' :: body name ++ '"' :: ':' :: charsWith body value
  | (name, value) :: rest =>
    '"' :: body name ++ '"' :: ':' :: charsWith body value ++ ',' :: fieldCharsWith body rest

end

/-- Values are built from their items and from the values of their fields. -/
@[elab_as_elim]
theorem induction {P : Json → Prop} (null : P .null) (bool : ∀ value, P (.bool value))
    (number : ∀ n, P (.number n)) (string : ∀ text, P (.string text))
    (array : ∀ items : List Json, (∀ item ∈ items, P item) → P (.array items))
    (object : ∀ fields : List (String × Json), (∀ field ∈ fields, P field.2) → P (.object fields)) :
    ∀ v, P v
  | .null => null
  | .bool value => bool value
  | .number n => number n
  | .string text => string text
  | .array items => array items fun item _ => induction null bool number string array object item
  | .object fields =>
    object fields fun field _ => induction null bool number string array object field.2
decreasing_by
  · have hlt := List.sizeOf_lt_of_mem ‹item ∈ items›
    rw [Json.array.sizeOf_spec]
    omega
  · have hlt := List.sizeOf_lt_of_mem ‹field ∈ fields›
    have hfield : sizeOf field = 1 + sizeOf field.1 + sizeOf field.2 := rfl
    rw [Json.object.sizeOf_spec]
    omega

/-- All numbers of a value are integers. -/
inductive Integral : Json → Prop
  | null : Integral .null
  | bool (value : Bool) : Integral (.bool value)
  | integer (value : Int) (fits : -0x8000000000000000 ≤ value ∧ value < 0x10000000000000000) :
    Integral (.integer value fits)
  | string (text : String) : Integral (.string text)
  | array {items : List Json} (h : ∀ item ∈ items, Integral item) : Integral (.array items)
  | object {fields : List (String × Json)} (h : ∀ field ∈ fields, Integral field.2) :
    Integral (.object fields)

namespace Document

mutual

/-- The document that a printed value is read as. -/
def ofJson : Json → Document
  | .null => .null
  | .bool value => .bool value
  | .number value => .number value.literal
  | .string text => .string (some text)
  | .array items => .array (ofItems items)
  | .object fields => .object (ofFields fields)

def ofItems : List Json → List Document
  | [] => []
  | item :: rest => ofJson item :: ofItems rest

def ofFields : List (String × Json) → List (Option String × Document)
  | [] => []
  | (name, value) :: rest => (some name, ofJson value) :: ofFields rest

end

end Document

variable {body : String → List Char} {g : String → String}

theorem mapTextItems_eq_map (items : List Json) : mapTextItems g items = items.map (mapText g) := by
  induction items with
  | nil => rfl
  | cons item items ih => rw [mapTextItems, ih, List.map_cons]

theorem mapTextFields_eq_map (fields : List (String × Json)) :
    mapTextFields g fields = fields.map fun field => (g field.1, mapText g field.2) := by
  induction fields with
  | nil => rfl
  | cons field fields ih => rw [mapTextFields, ih, List.map_cons]

theorem Document.ofItems_eq_map (items : List Json) :
    Document.ofItems items = items.map Document.ofJson := by
  induction items with
  | nil => rfl
  | cons item items ih => rw [Document.ofItems, ih, List.map_cons]

theorem Integral.mapText {v : Json} (h : v.Integral) (g : String → String) :
    (v.mapText g).Integral := by
  induction h with
  | null => exact .null
  | bool value => exact .bool value
  | integer value fits => exact .integer value fits
  | string text => exact .string _
  | array h ih =>
    rw [Json.mapText, mapTextItems_eq_map]
    exact .array fun item hitem => by
      obtain ⟨other, hother, rfl⟩ := List.mem_map.1 hitem
      exact ih other hother
  | object h ih =>
    rw [Json.mapText, mapTextFields_eq_map]
    exact .object fun field hfield => by
      obtain ⟨other, hother, rfl⟩ := List.mem_map.1 hfield
      exact ih other hother

theorem skipSpace_cons {c : Char} (h : isSpace c = false) (cs : List Char) :
    skipSpace (c :: cs) = c :: cs := by
  rw [skipSpace, List.dropWhile_cons_of_neg (by simp [h])]

theorem ne_of_number {c d : Char} (hc : c = '-' ∨ c.isDigit = true) (hsign : d ≠ '-')
    (hdigit : d.isDigit = false) : c ≠ d := by
  rintro rfl
  rcases hc with rfl | hc
  · exact hsign rfl
  · rw [hc] at hdigit
    cases hdigit

theorem not_isSpace_of_number {c : Char} (hc : c = '-' ∨ c.isDigit = true) :
    isSpace c = false := by
  simp only [isSpace, Bool.or_eq_false_iff, beq_eq_false_iff_ne]
  refine ⟨⟨⟨?_, ?_⟩, ?_⟩, ?_⟩ <;> exact ne_of_number hc (by decide) rfl

/-- The first character of a printed value is no white space and closes nothing. -/
theorem exists_charsWith_eq_cons (body : String → List Char) (v : Json) :
    ∃ c rest, charsWith body v = c :: rest ∧ isSpace c = false ∧ c ≠ ']' := by
  cases v with
  | null => exact ⟨_, _, rfl, by decide, by decide⟩
  | bool value => cases value <;> exact ⟨_, _, rfl, by decide, by decide⟩
  | number n =>
    obtain ⟨c, rest, hchars, hc⟩ := n.exists_chars_eq_cons
    exact ⟨c, rest, hchars, not_isSpace_of_number hc, ne_of_number hc (by decide) rfl⟩
  | string text => exact ⟨_, _, rfl, by decide, by decide⟩
  | array items => exact ⟨_, _, rfl, by decide, by decide⟩
  | object fields => exact ⟨_, _, rfl, by decide, by decide⟩

theorem readDocument_string {cs rest : List Char} {text : Option String} (n : Nat)
    (h : readString cs = some (text, rest)) :
    readDocument (n + 1) ('"' :: cs) = (.string text, some rest) := by
  rw [readDocument, skipSpace_cons (by decide)]
  simp only [h]

theorem readDocument_array (n : Nat) {c : Char} (hspace : isSpace c = false) (hc : c ≠ ']')
    (cs : List Char) :
    readDocument (n + 1) ('[' :: c :: cs) =
      (.array (readItems n (c :: cs)).1, (readItems n (c :: cs)).2) := by
  rw [readDocument, skipSpace_cons (by decide)]
  simp only [skipSpace_cons hspace]
  split
  · next h =>
    cases h
    exact absurd rfl hc
  · rfl

theorem readDocument_object (n : Nat) (cs : List Char) :
    readDocument (n + 1) ('{' :: '"' :: cs) =
      (.object (readFields n ('"' :: cs)).1, (readFields n ('"' :: cs)).2) := by
  rw [readDocument, skipSpace_cons (by decide)]
  simp only [skipSpace_cons (c := '"') rfl]
  rfl

/-- Only a number begins with a digit or a sign. -/
theorem readDocument_number (n : Nat) {c : Char} (hc : c = '-' ∨ c.isDigit = true)
    {cs rest : List Char} {literal : Literal} (h : readLiteral (c :: cs) = some (literal, rest)) :
    readDocument (n + 1) (c :: cs) = (.number literal, some rest) := by
  rw [readDocument, skipSpace_cons (not_isSpace_of_number hc)]
  split
  case h_7 => simp only [h]
  all_goals
    next heq =>
      cases heq
      exact absurd rfl (ne_of_number hc (by decide) rfl)

/-- A printed value is read up to its end, in no more steps than it has characters and one. -/
def ReadsBack (body : String → List Char) (g : String → String) (v : Json) : Prop :=
  ∀ n rest, (charsWith body v).length ≤ n → EndsNumber rest →
    readDocument (n + 1) (charsWith body v ++ rest) = (.ofJson (v.mapText g), some rest)

theorem readItems_itemCharsWith {items : List Json} (hne : items ≠ [])
    (h : ∀ item ∈ items, ReadsBack body g item) (n : Nat)
    (hn : (itemCharsWith body items).length + 2 ≤ n) (rest : List Char) :
    readItems n (itemCharsWith body items ++ ']' :: rest) =
      (Document.ofItems (mapTextItems g items), some rest) := by
  induction items generalizing n with
  | nil => exact absurd rfl hne
  | cons item items ih =>
    obtain ⟨steps, rfl⟩ : ∃ steps, n = steps + 2 := ⟨n - 2, by omega⟩
    obtain ⟨hitem, hitems⟩ := List.forall_mem_cons.1 h
    cases items with
    | nil =>
      simp only [itemCharsWith] at hn ⊢
      have hread := hitem steps (']' :: rest) (by omega) (endsNumber_cons (by simp) rest)
      rw [readItems, hread]
      simp only [skipSpace_cons (c := ']') rfl]
      rfl
    | cons next items =>
      simp only [itemCharsWith, List.length_append, List.length_cons, List.append_assoc,
        List.cons_append] at hn ⊢
      have hread := hitem steps (',' :: (itemCharsWith body (next :: items) ++ ']' :: rest))
        (by omega) (endsNumber_cons (by simp) _)
      have hrest := ih (by simp) hitems (steps + 1) (by omega)
      rw [readItems, hread]
      simp only [skipSpace_cons (c := ',') rfl, hrest]
      rfl

/-- The name of a field is read with its colon. -/
theorem readName_body {name text : List Char} (h : StringBody name text) (rest : List Char) :
    readFields.readName ('"' :: (name ++ '"' :: ':' :: rest)) =
      some (some (.ofList text), rest) := by
  unfold readFields.readName
  rw [skipSpace_cons (by decide)]
  simp only [h.readString, Option.bind_eq_bind, Option.bind_some]
  rw [skipSpace_cons (by decide)]
  rfl

theorem readFields_fieldCharsWith {fields : List (String × Json)} (hne : fields ≠ [])
    (hnames : ∀ field ∈ fields, StringBody (body field.1) (g field.1).toList)
    (h : ∀ field ∈ fields, ReadsBack body g field.2) (n : Nat)
    (hn : (fieldCharsWith body fields).length + 2 ≤ n) (rest : List Char) :
    readFields n (fieldCharsWith body fields ++ '}' :: rest) =
      (Document.ofFields (mapTextFields g fields), some rest) := by
  induction fields generalizing n with
  | nil => exact absurd rfl hne
  | cons field fields ih =>
    obtain ⟨steps, rfl⟩ : ∃ steps, n = steps + 2 := ⟨n - 2, by omega⟩
    obtain ⟨name, value⟩ := field
    obtain ⟨hname, hnames⟩ := List.forall_mem_cons.1 hnames
    obtain ⟨hvalue, hvalues⟩ := List.forall_mem_cons.1 h
    cases fields with
    | nil =>
      simp only [fieldCharsWith, List.length_append, List.length_cons, List.append_assoc,
        List.cons_append] at hn ⊢
      have hread := hvalue steps ('}' :: rest) (by dsimp only; omega)
        (endsNumber_cons (by simp) rest)
      rw [readFields, readName_body hname]
      simp only [hread, skipSpace_cons (c := '}') rfl, String.ofList_toList]
      rfl
    | cons next fields =>
      simp only [fieldCharsWith, List.length_append, List.length_cons, List.append_assoc,
        List.cons_append] at hn ⊢
      have hread := hvalue steps (',' :: (fieldCharsWith body (next :: fields) ++ '}' :: rest))
        (by dsimp only; omega) (endsNumber_cons (by simp) _)
      have hrest := ih (by simp) hnames hvalues (steps + 1) (by omega)
      rw [readFields, readName_body hname]
      simp only [hread, skipSpace_cons (c := ',') rfl, hrest, String.ofList_toList]
      rfl

theorem mem_itemTexts {text : String} {items : List Json} :
    text ∈ itemTexts items ↔ ∃ item ∈ items, text ∈ item.texts := by
  induction items with
  | nil => simp [itemTexts]
  | cons item items ih => simp [itemTexts, ih]

theorem mem_fieldTexts {text : String} {fields : List (String × Json)} :
    text ∈ fieldTexts fields ↔ ∃ field ∈ fields, text = field.1 ∨ text ∈ field.2.texts := by
  induction fields with
  | nil => simp [fieldTexts]
  | cons field fields ih => simp [fieldTexts, ih, or_assoc]

theorem exists_itemCharsWith_eq_append (body : String → List Char) (item : Json)
    (items : List Json) :
    ∃ tail, itemCharsWith body (item :: items) = charsWith body item ++ tail := by
  cases items with
  | nil => exact ⟨[], by rw [itemCharsWith, List.append_nil]⟩
  | cons next items => exact ⟨_, by rw [itemCharsWith]; simp⟩

theorem exists_fieldCharsWith_eq_cons (body : String → List Char) (field : String × Json)
    (fields : List (String × Json)) :
    ∃ tail, fieldCharsWith body (field :: fields) = '"' :: tail := by
  cases fields with
  | nil => exact ⟨_, rfl⟩
  | cons next fields => exact ⟨_, rfl⟩

/-- A value is read back from what is printed, if each of its strings has a body that stands for the
text it is to have. -/
theorem readsBack {v : Json}
    (hbody : ∀ text ∈ v.texts, StringBody (body text) (g text).toList) :
    ReadsBack body g v := by
  induction v using induction with
  | null =>
    intro n rest _ _
    rfl
  | bool value =>
    intro n rest _ _
    cases value <;> rfl
  | number number =>
    intro n rest _ hrest
    have hread := number.readLiteral_chars hrest
    obtain ⟨c, cs, hchars, hc⟩ := number.exists_chars_eq_cons
    have hprinted : charsWith body (.number number) = c :: cs := hchars
    rw [hchars, List.cons_append] at hread
    rw [hprinted, List.cons_append, readDocument_number n hc hread]
    rfl
  | string text =>
    intro n rest _ _
    have htext := (hbody text (by simp [texts])).readString rest
    simp only [charsWith, List.cons_append, List.append_assoc, List.nil_append]
    rw [readDocument_string n htext, String.ofList_toList]
    rfl
  | array items ih =>
    intro n rest hn _
    cases items with
    | nil => rfl
    | cons item items =>
      have hitems := readItems_itemCharsWith (List.cons_ne_nil item items)
        (fun other hother => ih other hother fun text htext =>
          hbody text (mem_itemTexts.2 ⟨other, hother, htext⟩)) n
        (by simp [charsWith] at hn; omega) rest
      obtain ⟨tail, htail⟩ := exists_itemCharsWith_eq_append body item items
      obtain ⟨c, cs, hitem, hspace, hc⟩ := exists_charsWith_eq_cons body item
      simp only [charsWith, List.cons_append, List.append_assoc, List.nil_append]
      rw [htail, hitem, List.cons_append, List.cons_append] at hitems ⊢
      rw [readDocument_array n hspace hc, hitems]
      rfl
  | object fields ih =>
    intro n rest hn _
    cases fields with
    | nil => rfl
    | cons field fields =>
      have hfields := readFields_fieldCharsWith (List.cons_ne_nil field fields)
        (fun other hother => hbody other.1 (mem_fieldTexts.2 ⟨other, hother, .inl rfl⟩))
        (fun other hother => ih other hother fun text htext =>
          hbody text (mem_fieldTexts.2 ⟨other, hother, .inr htext⟩)) n
        (by simp [charsWith] at hn; omega) rest
      obtain ⟨tail, htail⟩ := exists_fieldCharsWith_eq_cons body field fields
      simp only [charsWith, List.cons_append, List.append_assoc, List.nil_append]
      rw [htail, List.cons_append] at hfields ⊢
      rw [readDocument_object, hfields]
      rfl

theorem ofChars_charsWith {v : Json}
    (hbody : ∀ text ∈ v.texts, StringBody (body text) (g text).toList) :
    Document.ofChars (charsWith body v) = (.ofJson (v.mapText g), some []) := by
  have hread := readsBack hbody (2 * (charsWith body v).length + 1) [] (by omega) endsNumber_nil
  rwa [List.append_nil] at hread

mutual

theorem depth_mapText (g : String → String) : ∀ v : Json, (v.mapText g).depth = v.depth
  | .null | .bool _ | .number _ | .string _ => rfl
  | .array items => by rw [mapText, depth, depth, itemDepth_mapTextItems g items]
  | .object fields => by rw [mapText, depth, depth, fieldDepth_mapTextFields g fields]

theorem itemDepth_mapTextItems (g : String → String) :
    ∀ items : List Json, itemDepth (mapTextItems g items) = itemDepth items
  | [] => rfl
  | item :: rest => by
    rw [mapTextItems, itemDepth, itemDepth, depth_mapText g item, itemDepth_mapTextItems g rest]

theorem fieldDepth_mapTextFields (g : String → String) :
    ∀ fields : List (String × Json), fieldDepth (mapTextFields g fields) = fieldDepth fields
  | [] => rfl
  | (_, value) :: rest => by
    rw [mapTextFields, fieldDepth, fieldDepth, depth_mapText g value,
      fieldDepth_mapTextFields g rest]

end

theorem depth_le_itemDepth {item : Json} {items : List Json} (h : item ∈ items) :
    item.depth ≤ itemDepth items := by
  induction items with
  | nil => cases h
  | cons other items ih =>
    rw [itemDepth]
    rcases List.mem_cons.1 h with rfl | h
    · exact Nat.le_max_left _ _
    · exact Nat.le_trans (ih h) (Nat.le_max_right _ _)

theorem itemDepth_le {n : Nat} {items : List Json} (h : ∀ item ∈ items, item.depth ≤ n) :
    itemDepth items ≤ n := by
  induction items with
  | nil => exact Nat.zero_le n
  | cons item items ih =>
    obtain ⟨hitem, hitems⟩ := List.forall_mem_cons.1 h
    exact Nat.max_le.2 ⟨hitem, ih hitems⟩

theorem depth_le_fieldDepth {field : String × Json} {fields : List (String × Json)}
    (h : field ∈ fields) : field.2.depth ≤ fieldDepth fields := by
  induction fields with
  | nil => cases h
  | cons other fields ih =>
    rw [fieldDepth]
    rcases List.mem_cons.1 h with rfl | h
    · exact Nat.le_max_left _ _
    · exact Nat.le_trans (ih h) (Nat.le_max_right _ _)

theorem itemsToJson?_ofItems {levels : Nat} {items : List Json}
    (h : ∀ item ∈ items, (Document.ofJson item).toJson? levels = some item) :
    Document.itemsToJson? levels (Document.ofItems items) = some items := by
  induction items with
  | nil => rfl
  | cons item items ih =>
    obtain ⟨hitem, hitems⟩ := List.forall_mem_cons.1 h
    simp [Document.ofItems, Document.itemsToJson?, hitem, ih hitems]

theorem fieldsToJson?_ofFields {levels : Nat} {fields : List (String × Json)}
    (h : ∀ field ∈ fields, (Document.ofJson field.2).toJson? levels = some field.2) :
    Document.fieldsToJson? levels (Document.ofFields fields) = some fields := by
  induction fields with
  | nil => rfl
  | cons field fields ih =>
    obtain ⟨hfield, hfields⟩ := List.forall_mem_cons.1 h
    simp [Document.ofFields, Document.fieldsToJson?, hfield, ih hfields]

/-- The document of a value gives the value, if there are levels enough. -/
theorem Integral.toJson?_ofJson {v : Json} (h : v.Integral) (levels : Nat)
    (hdepth : v.depth ≤ levels) : (Document.ofJson v).toJson? levels = some v := by
  induction h generalizing levels with
  | null => rfl
  | bool value => rfl
  | integer value fits =>
    have hnumber := toNumber?_integerLiteral value fits
    rw [← literal_integer value fits] at hnumber
    exact congrArg (Option.map Json.number) hnumber
  | string text => rfl
  | @array items h ih =>
    rw [depth] at hdepth
    obtain ⟨inner, rfl⟩ : ∃ inner, levels = inner + 1 := ⟨levels - 1, by omega⟩
    have hitems := itemsToJson?_ofItems fun item hitem => ih item hitem inner (by
      have := depth_le_itemDepth hitem
      omega)
    simp [Document.ofJson, Document.toJson?, hitems]
  | @object fields h ih =>
    rw [depth] at hdepth
    obtain ⟨inner, rfl⟩ : ∃ inner, levels = inner + 1 := ⟨levels - 1, by omega⟩
    have hfields := fieldsToJson?_ofFields fun field hfield => ih field hfield inner (by
      have := depth_le_fieldDepth hfield
      omega)
    simp [Document.ofJson, Document.toJson?, hfields]

mutual

/-- A value with more levels than are left is no value of its document. -/
theorem toJson?_ofJson_of_lt : ∀ (v : Json) {levels : Nat}, levels < v.depth →
    (Document.ofJson v).toJson? levels = none
  | .null, _, h | .bool _, _, h | .number _, _, h | .string _, _, h => absurd h (Nat.not_lt_zero _)
  | .array _, 0, _ => rfl
  | .array items, levels + 1, h => by
    have hitems := itemsToJson?_ofItems_of_lt items (Nat.lt_of_succ_lt_succ h)
    rw [Document.ofJson, Document.toJson?, hitems]
    rfl
  | .object _, 0, _ => rfl
  | .object fields, levels + 1, h => by
    have hfields := fieldsToJson?_ofFields_of_lt fields (Nat.lt_of_succ_lt_succ h)
    rw [Document.ofJson, Document.toJson?, hfields]
    rfl

theorem itemsToJson?_ofItems_of_lt : ∀ (items : List Json) {levels : Nat},
    levels < itemDepth items → Document.itemsToJson? levels (Document.ofItems items) = none
  | [], _, h => absurd h (Nat.not_lt_zero _)
  | item :: rest, levels, h => by
    rw [itemDepth] at h
    rw [Document.ofItems, Document.itemsToJson?]
    by_cases hitem : levels < item.depth
    · rw [toJson?_ofJson_of_lt item hitem]
      rfl
    · rw [itemsToJson?_ofItems_of_lt rest (by omega)]
      cases (Document.ofJson item).toJson? levels <;> rfl

theorem fieldsToJson?_ofFields_of_lt : ∀ (fields : List (String × Json)) {levels : Nat},
    levels < fieldDepth fields → Document.fieldsToJson? levels (Document.ofFields fields) = none
  | [], _, h => absurd h (Nat.not_lt_zero _)
  | (_, value) :: rest, levels, h => by
    rw [fieldDepth] at h
    rw [Document.ofFields, Document.fieldsToJson?]
    by_cases hvalue : levels < value.depth
    · rw [toJson?_ofJson_of_lt value hvalue]
      rfl
    · rw [fieldsToJson?_ofFields_of_lt rest (by omega)]
      cases (Document.ofJson value).toJson? levels <;> rfl

end

/-- A string between its quotes as it is printed. -/
def escapedBody (text : String) : List Char :=
  text.toList.flatMap escaped

theorem stringBody_escapedBody (text : String) : StringBody (escapedBody text) text.toList := by
  unfold escapedBody
  induction text.toList with
  | nil => exact .nil
  | cons c cs ih => exact (stringBody_escaped c).append ih

mutual

theorem charsWith_escapedBody : ∀ v : Json, charsWith escapedBody v = v.chars
  | .null | .bool true | .bool false | .number _ | .string _ => rfl
  | .array items => by rw [charsWith, chars, itemCharsWith_escapedBody items]
  | .object fields => by rw [charsWith, chars, fieldCharsWith_escapedBody fields]

theorem itemCharsWith_escapedBody :
    ∀ items : List Json, itemCharsWith escapedBody items = itemChars items
  | [] => rfl
  | [item] => charsWith_escapedBody item
  | item :: next :: rest => by
    rw [itemCharsWith, itemChars, charsWith_escapedBody item,
      itemCharsWith_escapedBody (next :: rest)]
    all_goals simp

theorem fieldCharsWith_escapedBody :
    ∀ fields : List (String × Json), fieldCharsWith escapedBody fields = fieldChars fields
  | [] => rfl
  | [(name, value)] => by
    simp only [fieldCharsWith, fieldChars, stringChars, escapedBody, charsWith_escapedBody value,
      List.cons_append, List.append_assoc, List.nil_append]
  | (name, value) :: next :: rest => by
    have hrest := fieldCharsWith_escapedBody (next :: rest)
    simp only [fieldCharsWith, fieldChars, stringChars, escapedBody, charsWith_escapedBody value,
      hrest, List.cons_append, List.append_assoc, List.nil_append]

end

mutual

/-- A change of texts leaves a value alone exactly when it leaves all of its strings alone. -/
theorem mapText_eq_self_iff : ∀ v : Json, v.mapText g = v ↔ ∀ text ∈ v.texts, g text = text
  | .null | .bool _ | .number _ => by simp [mapText, texts]
  | .string text => by simp [mapText, texts]
  | .array items => by simp [mapText, texts, mapTextItems_eq_self_iff items]
  | .object fields => by simp [mapText, texts, mapTextFields_eq_self_iff fields]

theorem mapTextItems_eq_self_iff :
    ∀ items : List Json, mapTextItems g items = items ↔ ∀ text ∈ itemTexts items, g text = text
  | [] => by simp [mapTextItems, itemTexts]
  | item :: rest => by
    simp [mapTextItems, itemTexts, or_imp, forall_and, mapText_eq_self_iff item,
      mapTextItems_eq_self_iff rest]

theorem mapTextFields_eq_self_iff :
    ∀ fields : List (String × Json), mapTextFields g fields = fields ↔
      ∀ text ∈ fieldTexts fields, g text = text
  | [] => by simp [mapTextFields, fieldTexts]
  | (name, value) :: rest => by
    simp [mapTextFields, fieldTexts, or_imp, forall_and, and_assoc, mapText_eq_self_iff value,
      mapTextFields_eq_self_iff rest]

end

/-- The text of a value has the document of the value, and ends with it. -/
theorem ofChars_text (v : Json) : Document.ofChars v.text.toList = (.ofJson v, some []) := by
  have hread := ofChars_charsWith (v := v) (g := id) fun text _ => stringBody_escapedBody text
  have hsame : v.mapText id = v := (mapText_eq_self_iff v).2 fun _ _ => rfl
  rw [charsWith_escapedBody, hsame] at hread
  rw [text, String.toList_ofList]
  exact hread

/-- A text that is a document to its end is read as the document is. -/
theorem Reader.run_of_ofChars {α : Type} {whole : String} {document : Document}
    (h : Document.ofChars whole.toList = (document, some [])) (reader : Reader α) :
    reader.run whole = reader levelLimit document := by
  unfold Reader.run
  rw [h]
  dsimp only
  split
  · next hreader => exact hreader.symm
  · next hreader => exact hreader.symm

/-- What is read from the text of a value is what is read from its document. -/
theorem Reader.run_text {α : Type} (v : Json) (reader : Reader α) :
    reader.run v.text = reader levelLimit (.ofJson v) :=
  run_of_ofChars v.ofChars_text reader

end SeriesQuery.Json
