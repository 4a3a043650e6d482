import FormSnippet.Proofs.Form.Written
import FormSnippet.Proofs.Json.Sound

/-!
# Shape — which documents hold forms

What a JSON value has to look like to hold forms, told without reading it.  The readers of fields,
forms and files accept the values of these shapes and no others, so a document is accepted exactly
if its value is of the right shape; otherwise it is refused as a whole.

- `Json.IsRecord`           : a record as an object or as an array
- `IsField`, `IsForm`       : fields and forms
- `IsFormsFile`             : forms files
- `parseForms_accepts_iff`  : the texts that are accepted
-/

namespace FormSnippet

open Json (Value)

/-! ## Shapes -/

namespace Json

/-- One member has that name, and its value is as it should be. -/
def Once (key : String) (good : Value → Prop) (members : List (String × Value)) : Prop :=
  (members.map Prod.fst).count key = 1 ∧ ∀ value, (key, value) ∈ members → good value

/-- The same, where the member may be left out. -/
def AtMostOnce (key : String) (good : Value → Prop) (members : List (String × Value)) : Prop :=
  (members.map Prod.fst).count key ≤ 1 ∧ ∀ value, (key, value) ∈ members → good value

def IsText (value : Value) : Prop :=
  ∃ text, value = .string text

def IsOptionalText (value : Value) : Prop :=
  IsText value ∨ value = .null

def IsListOf (good : Value → Prop) (value : Value) : Prop :=
  ∃ items, value = .array items ∧ ∀ item ∈ items, good item

/-- An object with the required member, the other ones or some of them, and members of other names;
or an array that begins with the required value, and goes on with those of the first other ones. -/
inductive IsRecord (required : String × (Value → Prop)) (others : List (String × (Value → Prop))) :
    Value → Prop
  | object {members : List (String × Value)} (one : Once required.1 required.2 members)
      (more : ∀ other ∈ others, AtMostOnce other.1 other.2 members) :
      IsRecord required others (.object members)
  | array {value : Value} {values : List Value} (first : required.2 value)
      (more : List.Forall₂ (fun value other => other.2 value) values
        (others.take values.length)) :
      IsRecord required others (.array (value :: values))

end Json

def IsField : Value → Prop :=
  Json.IsRecord ("name", Json.IsText)
    [("label", Json.IsOptionalText), ("description", Json.IsOptionalText)]

def IsForm : Value → Prop :=
  Json.IsRecord ("name", Json.IsText)
    [("title", Json.IsOptionalText), ("fields", Json.IsListOf IsField)]

/-- Settings in which the forms are a member, or the forms alone. -/
inductive IsFormsFile : Value → Prop
  | settings {members : List (String × Value)}
      (once : Json.Once "formDefinitions" (Json.IsListOf IsForm) members) :
      IsFormsFile (.object members)
  | list {value : Value} (forms : Json.IsListOf IsForm value) : IsFormsFile value

/-! ## Members -/

namespace Json

variable {key : String} {good : Value → Prop} {members : List (String × Value)}

theorem length_membersNamed (key : String) (members : List (String × Value)) :
    (membersNamed key members).length = (members.map Prod.fst).count key := by
  induction members with
  | nil => rfl
  | cons member members ih =>
      rw [membersNamed] at ih
      by_cases here : member.1 = key
      · simp [membersNamed, here, ih]
      · simp [membersNamed, here, ih, List.count_cons_of_ne]

theorem mem_membersNamed {value : Value} :
    value ∈ membersNamed key members ↔ (key, value) ∈ members := by
  rw [membersNamed, List.mem_filterMap]
  constructor
  · rintro ⟨⟨name, given⟩, mem, same⟩
    split at same
    · next here =>
        cases here
        cases same
        exact mem
    · cases same
  · intro mem
    exact ⟨(key, value), mem, if_pos rfl⟩

/-- The values of a name of which there is one member. -/
theorem once_iff :
    Once key good members ↔ ∃ value, membersNamed key members = [value] ∧ good value := by
  rw [Once, ← length_membersNamed, List.length_eq_one_iff]
  constructor
  · rintro ⟨⟨value, single⟩, all⟩
    exact ⟨value, single, all value (mem_membersNamed.1 (by simp [single]))⟩
  · rintro ⟨value, single, ok⟩
    refine ⟨⟨value, single⟩, fun other mem => ?_⟩
    rw [← mem_membersNamed, single, List.mem_singleton] at mem
    rw [mem]
    exact ok

theorem atMostOnce_iff :
    AtMostOnce key good members ↔
      membersNamed key members = [] ∨ ∃ value, membersNamed key members = [value] ∧ good value := by
  rw [← once_iff, Once, AtMostOnce, ← length_membersNamed, ← List.length_eq_zero_iff]
  constructor
  · rintro ⟨few, all⟩
    rcases Nat.lt_or_eq_of_le few with none | one
    · exact .inl (Nat.lt_one_iff.1 none)
    · exact .inr ⟨one, all⟩
  · rintro (none | ⟨one, all⟩)
    · refine ⟨by omega, fun value mem => ?_⟩
      rw [← mem_membersNamed, List.length_eq_zero_iff.1 none] at mem
      cases mem
    · exact ⟨Nat.le_of_eq one, all⟩

/-! ## Readers of values -/

theorem text?_isSome_iff (value : Value) : value.text?.isSome = true ↔ IsText value := by
  cases value <;> simp [Value.text?, IsText]

theorem optionalText?_isSome_iff (value : Value) :
    value.optionalText?.isSome = true ↔ IsOptionalText value := by
  cases value <;> simp [Value.optionalText?, IsOptionalText, IsText]

section Readers

variable {α : Type} {read? : Value → Option α}
  (reads : ∀ value, (read? value).isSome = true ↔ good value)

include reads

theorem listOf?_isSome_iff (value : Value) :
    (Value.listOf? read? value).isSome = true ↔ IsListOf good value := by
  have all (items : List Value) :
      (items.mapM read?).isSome = true ↔ ∀ item ∈ items, good item := by
    induction items with
    | nil => simp
    | cons item items ih =>
        rw [List.forall_mem_cons, ← reads, ← ih, List.mapM_cons]
        cases read? item <;> cases items.mapM read? <;> simp
  cases value with
  | array items => simp [Value.listOf?, IsListOf, all]
  | _ => simp [Value.listOf?, IsListOf]

theorem required?_isSome_iff (values : List Value) :
    (required? read? values).isSome = true ↔ ∃ value, values = [value] ∧ good value := by
  match values with
  | [] => simp [required?]
  | [value] => simp [required?, reads]
  | _ :: _ :: _ => simp [required?]

theorem optional?_isSome_iff (absent : α) (values : List Value) :
    (optional? absent read? values).isSome = true ↔
      values = [] ∨ ∃ value, values = [value] ∧ good value := by
  match values with
  | [] => simp [optional?]
  | [value] => simp [optional?, reads]
  | _ :: _ :: _ => simp [optional?]

end Readers

/-! ## Readers of records -/

/-- A reader of records with three members.  It takes them from an object by their names or from an
array by their places, and of each it reads the values that it has found. -/
structure RecordReader {α : Type} (required : String × (Value → Prop))
    (second third : String × (Value → Prop)) (ofJson : Value → Option α) where
  ofParts : List Value → List Value → List Value → Option α
  object (members : List (String × Value)) : ofJson (.object members) =
    ofParts (membersNamed required.1 members) (membersNamed second.1 members)
      (membersNamed third.1 members)
  array (items : List Value) : ofJson (.array items) =
    if items.length ≤ 3 then ofParts (items.take 1) ((items.drop 1).take 1) ((items.drop 2).take 1)
    else none
  other {value : Value} (noObject : ∀ members, value ≠ .object members)
    (noArray : ∀ items, value ≠ .array items) : ofJson value = none
  parts (firsts seconds thirds : List Value) : (ofParts firsts seconds thirds).isSome = true ↔
    (∃ value, firsts = [value] ∧ required.2 value) ∧
    (seconds = [] ∨ ∃ value, seconds = [value] ∧ second.2 value) ∧
    (thirds = [] ∨ ∃ value, thirds = [value] ∧ third.2 value)

theorem RecordReader.isSome_iff {α : Type} {required second third : String × (Value → Prop)}
    {ofJson : Value → Option α} (reader : RecordReader required second third ofJson)
    (value : Value) :
    (ofJson value).isSome = true ↔ IsRecord required [second, third] value := by
  have none (noObject : ∀ members, value ≠ .object members)
      (noArray : ∀ items, value ≠ .array items) :
      (ofJson value).isSome = true ↔ IsRecord required [second, third] value := by
    rw [reader.other noObject noArray]
    refine ⟨nofun, ?_⟩
    rintro (_ | _)
    · exact absurd rfl (noObject _)
    · exact absurd rfl (noArray _)
  cases value with
  | object members =>
      rw [reader.object, reader.parts, ← once_iff, ← atMostOnce_iff, ← atMostOnce_iff]
      constructor
      · rintro ⟨one, second, third⟩
        exact .object one (by simp [second, third])
      · rintro (⟨one, more⟩ | _)
        exact ⟨one, more _ (by simp), more _ (by simp)⟩
  | array items =>
      have shape : IsRecord required [second, third] (.array items) ↔
          ∃ value values, items = value :: values ∧ required.2 value ∧
            List.Forall₂ (fun value other => other.2 value) values
              ([second, third].take values.length) := by
        constructor
        · rintro (_ | ⟨first, more⟩)
          exact ⟨_, _, rfl, first, more⟩
        · rintro ⟨value, values, rfl, first, more⟩
          exact .array first more
      rw [reader.array, shape]
      -- A list of the right length, and with what is asked for at each place.
      match items with
      | [] => simp [reader.parts]
      | [x] => simp [reader.parts]
      | [x, y] => simp [reader.parts]
      | [x, y, z] => simp [reader.parts]
      | x :: y :: z :: w :: more => simp
  | _ => exact none nofun nofun

theorem isSome_parts {α β γ δ : Type} (first : Option α) (second : Option β) (third : Option γ)
    (whole : α → β → γ → δ) :
    (do
      let a ← first
      let b ← second
      let c ← third
      return whole a b c : Option δ).isSome = true ↔
      first.isSome = true ∧ second.isSome = true ∧ third.isSome = true := by
  cases first <;> cases second <;> cases third <;> simp

end Json

def FieldDefinition.reader :
    Json.RecordReader ("name", Json.IsText) ("label", Json.IsOptionalText)
      ("description", Json.IsOptionalText) FieldDefinition.ofJson? where
  ofParts := FieldDefinition.ofParts?
  object _ := rfl
  array _ := rfl
  other {value} noObject noArray := by
    cases value with
    | object members => exact absurd rfl (noObject members)
    | array items => exact absurd rfl (noArray items)
    | _ => rfl
  parts firsts seconds thirds := by
    rw [FieldDefinition.ofParts?, Json.isSome_parts,
      Json.required?_isSome_iff Json.text?_isSome_iff,
      Json.optional?_isSome_iff Json.optionalText?_isSome_iff,
      Json.optional?_isSome_iff Json.optionalText?_isSome_iff]

theorem isField_iff (value : Value) :
    (FieldDefinition.ofJson? value).isSome = true ↔ IsField value :=
  FieldDefinition.reader.isSome_iff value

def Form.reader :
    Json.RecordReader ("name", Json.IsText) ("title", Json.IsOptionalText)
      ("fields", Json.IsListOf IsField) Form.ofJson? where
  ofParts := Form.ofParts?
  object _ := rfl
  array _ := rfl
  other {value} noObject noArray := by
    cases value with
    | object members => exact absurd rfl (noObject members)
    | array items => exact absurd rfl (noArray items)
    | _ => rfl
  parts firsts seconds thirds := by
    rw [Form.ofParts?, Json.isSome_parts,
      Json.required?_isSome_iff Json.text?_isSome_iff,
      Json.optional?_isSome_iff Json.optionalText?_isSome_iff,
      Json.optional?_isSome_iff (Json.listOf?_isSome_iff isField_iff)]

theorem isForm_iff (value : Value) : (Form.ofJson? value).isSome = true ↔ IsForm value :=
  Form.reader.isSome_iff value

theorem isFormsFile_iff (value : Value) : (formsOf? value).isSome = true ↔ IsFormsFile value := by
  have list : (Json.Value.listOf? Form.ofJson? value).isSome = true ↔
      Json.IsListOf IsForm value :=
    Json.listOf?_isSome_iff isForm_iff value
  cases value with
  | object members =>
      rw [formsOf?, Json.required?_isSome_iff (Json.listOf?_isSome_iff isForm_iff),
        ← Json.once_iff]
      constructor
      · exact .settings
      · rintro (once | ⟨_, same, -⟩)
        · exact once
        · cases same
  | _ =>
      rw [formsOf?, list]
      · constructor
        · exact .list
        · rintro (_ | forms)
          exact forms
      · intro members same
        cases same

instance : DecidablePred IsFormsFile := fun value =>
  decidable_of_iff _ (isFormsFile_iff value)

/-! ## Documents -/

theorem readDocument_ok_iff {text : String} {forms : List Form} :
    readDocument text = .ok forms ↔
      ∃ value, Json.Document text value ∧ formsOf? value = some forms := by
  constructor
  · intro ok
    unfold readDocument readForms at ok
    split at ok
    · cases ok
    · next value rest read =>
        split at ok
        · cases ok
        · next forms' found =>
            split at ok
            · cases ok
            · next last =>
                cases ok
                exact ⟨value, Json.document_iff.2 ⟨rest, read, last⟩, found⟩
  · rintro ⟨value, document, found⟩
    rcases Json.document_iff.1 document with ⟨rest, read, last⟩
    simp only [readDocument, readForms, read, found, last]

theorem readDocument_notForms {text : String} {value : Value} (document : Json.Document text value)
    (none : formsOf? value = none) : readDocument text = .error .notForms := by
  rcases Json.document_iff.1 document with ⟨rest, read, -⟩
  simp only [readDocument, readForms, read, none]

/-- Whatever writes forms has the shape of a forms file. -/
theorem Writes.document {text : String} {forms : List Form} (writes : Writes text forms) :
    ∃ value, Json.Document text value ∧ IsFormsFile value := by
  rcases writes with ⟨value, before, cs, after, written, spelt, hbefore, hafter, whole⟩
  refine ⟨value, ⟨before, cs, after, hbefore, spelt, hafter, whole⟩, ?_⟩
  rw [← isFormsFile_iff, written.reads]
  rfl

/-- A text is accepted only if it is a document.  A document is accepted exactly if it has the shape
of a forms file; else it is refused as a whole, with the error for documents that hold no forms. -/
theorem parseForms_accepts_iff (text : String) :
    ((∃ forms, parseForms text = .ok forms) → ∃ value, Json.Document text value) ∧
    ∀ value, Json.Document text value →
      ((∃ forms, parseForms text = .ok forms) ↔ IsFormsFile value) ∧
      (¬ IsFormsFile value → parseForms text = .error .notForms) := by
  have parsed {forms : List Form} (ok : parseForms text = .ok forms) :
      ∃ value, Json.Document text value ∧ IsFormsFile value := by
    rw [parseForms] at ok
    rcases read : readDocument text with cause | declared
    · rw [read] at ok
      cases ok
    · rcases readDocument_ok_iff.1 read with ⟨value, document, found⟩
      refine ⟨value, document, (isFormsFile_iff value).1 ?_⟩
      rw [found]
      rfl
  constructor
  case left =>
    rintro ⟨forms, ok⟩
    rcases parsed ok with ⟨value, document, -⟩
    exact ⟨value, document⟩
  case right =>
    intro value document
    refine ⟨⟨?only, ?all⟩, ?refused⟩
    case only =>
      rintro ⟨forms, ok⟩
      rcases parsed ok with ⟨value', document', shape⟩
      -- A text is a document for one value only.
      rw [document.unique document']
      exact shape
    case all =>
      intro shape
      rcases Option.isSome_iff_exists.1 ((isFormsFile_iff value).2 shape) with ⟨declared, found⟩
      have read := readDocument_ok_iff.2 ⟨value, document, found⟩
      exact ⟨Form.usable declared, by rw [parseForms, read]; rfl⟩
    case refused =>
      intro shapeless
      have none : formsOf? value = none := by
        rw [← Option.not_isSome_iff_eq_none, isFormsFile_iff]
        exact shapeless
      rw [parseForms, readDocument_notForms document none]
      rfl

/-! ### A document of each kind -/

section Documents

open Json

/-- A form with a field that is named twice. -/
def twiceValue : Value :=
  .array [.object [("name", .string "A"),
    ("fields", .array [.object [("name", .string "a"), ("name", .string "b")]])]]

def twiceText : String :=
  "[\x7b\"name\":\"A\",\"fields\":[\x7b\"name\":\"a\",\"name\":\"b\"\x7d]\x7d]"

theorem twiceText_document : Document twiceText twiceValue := by
  have gap : Blank [] := by decide
  have named (levels : Nat) (text : String) :
      MemberSpelling (Spelled levels) ("name", .string text) _ :=
    .mk (quoteChars_spelling "name") gap gap (.flat (.string (quoteChars_spelling text)))
  have field : Spelled 124 (.object [("name", .string "a"), ("name", .string "b")]) _ :=
    .nest (.object (.some gap (named _ "a") (.next gap gap (named _ "b") (.last gap))))
  have fields : MemberSpelling (Spelled 125) ("fields", .array [_]) _ :=
    .mk (quoteChars_spelling "fields") gap gap (.nest (.array (.some gap field (.last gap))))
  have form : Spelled 126 (.object [("name", .string "A"), ("fields", .array [_])]) _ :=
    .nest (.object (.some gap (named _ "A") (.next gap gap fields (.last gap))))
  have file : Spelled maxLevels twiceValue _ :=
    .nest (.array (.some gap form (.last gap)))
  exact ⟨[], _, [], gap, file, gap, by decide +kernel⟩

theorem twiceValue_shapeless : ¬ IsFormsFile twiceValue := by
  decide +kernel

theorem parseForms_accepts_mixed :
    (∃ value, Document mixedText value ∧ IsFormsFile value ∧
      ∃ forms, parseForms mixedText = .ok forms) ∧
    Document twiceText twiceValue ∧ ¬ IsFormsFile twiceValue ∧
      parseForms twiceText = .error .notForms := by
  constructor
  · rcases mixedText_writes.document with ⟨value, document, shape⟩
    have law := (parseForms_accepts_iff mixedText).2 value document
    exact ⟨value, document, shape, law.1.2 shape⟩
  · have law := (parseForms_accepts_iff twiceText).2 twiceValue twiceText_document
    exact ⟨twiceText_document, twiceValue_shapeless, law.2 twiceValue_shapeless⟩

end Documents

/-! ## Halves of pairs -/

namespace Json

/-- The second text is the first one with the escape of the replacement character in place of some
escapes of surrogates.  The grammar of JSON does not tell these escapes apart. -/
inductive Mended : List Char → List Char → Prop
  | nil : Mended [] []
  | keep {cs cs' : List Char} (c : Char) (rest : Mended cs cs') : Mended (c :: cs) (c :: cs')
  | half {n : Nat} {hex cs cs' : List Char} (number : Hex4 n hex)
      (surrogate : isLeading n = true ∨ isTrailing n = true) (rest : Mended cs cs') :
      Mended ('\\' :: 'u' :: (hex ++ cs)) ('\\' :: 'u' :: 'f' :: 'f' :: 'f' :: 'd' :: cs')

theorem Mended.refl (cs : List Char) : Mended cs cs := by
  induction cs with
  | nil => exact .nil
  | cons c cs ih => exact .keep c ih

theorem Mended.behind {cs cs' : List Char} (before : List Char) (mended : Mended cs cs') :
    Mended (before ++ cs) (before ++ cs') := by
  induction before with
  | nil => exact mended
  | cons c before ih => exact .keep c ih

/-- The text is in the grammar of JSON, where half of a surrogate pair may be escaped alone. -/
def Conforms (text : String) (value : Value) : Prop :=
  ∃ mended, Mended text.toList mended ∧ Document (String.ofList mended) value

theorem Document.conforms {text : String} {value : Value} (document : Document text value) :
    Conforms text value :=
  ⟨text.toList, .refl _, by rwa [String.ofList_toList]⟩

end Json

/-- A form with another member, which is half of a surrogate pair. -/
def halfText : String :=
  "[\x7b\"name\":\"A\",\"note\":\"\\ud800\"\x7d]"

theorem halfText_conforms : ∃ value, Json.Conforms halfText value ∧ IsFormsFile value := by
  have half : Json.Hex4 0xD800 ['d', '8', '0', '0'] := ⟨13, 8, 0, 0, by decide, rfl⟩
  have mended := (Json.Mended.half half (.inl rfl) (.refl ['"', '\x7d', ']'])).behind
    "[\x7b\"name\":\"A\",\"note\":\"".toList
  have read : readDocument "[\x7b\"name\":\"A\",\"note\":\"\\ufffd\"\x7d]" =
      .ok [⟨"A", none, []⟩] := by
    decide +kernel
  rcases readDocument_ok_iff.1 read with ⟨value, document, found⟩
  refine ⟨value, ⟨_, mended, ?_⟩, ?_⟩
  · exact document
  · rw [← isFormsFile_iff, found]
    rfl

/-- Where strings are Unicode texts, half of a pair is no string: the text is refused, though its
shape is that of a forms file, and not for its shape. -/
theorem halfText_refused :
    ∃ value, Json.Conforms halfText value ∧ IsFormsFile value ∧
      ¬ ((∃ forms, parseForms halfText = .ok forms) ↔ IsFormsFile value) ∧
      parseForms halfText = .error (.malformed .surrogateUnpaired ⟨1, 28⟩) := by
  rcases halfText_conforms with ⟨value, conforms, shape⟩
  have refused : parseForms halfText = .error (.malformed .surrogateUnpaired ⟨1, 28⟩) := by
    decide +kernel
  refine ⟨value, conforms, shape, ?_, refused⟩
  intro accepted
  rcases accepted.2 shape with ⟨forms, ok⟩
  rw [refused] at ok
  cases ok

end FormSnippet
