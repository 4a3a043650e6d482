import FormSnippet.Form.Document
import FormSnippet.Proofs.Json.Quoted
import Mathlib.Data.List.Basic
import Mathlib.Data.List.Perm.Basic
import Mathlib.Data.List.TakeWhile

/-!
# Written — forms as they may be written

The notation leaves a writer of forms much freedom.  A form and a field may be objects, with their
members in any order and others among them, or arrays of their members in declared order; an option
that is absent may be written as `null` or left out; the list of forms may stand alone or be a
member of the settings; and all of it may be spelled as JSON is spelled.  However they are written,
the forms come back as they are, but for those that no one could use.

- `Json.Recorded`           : a record as an object or as an array
- `Form.Written`            : the JSON values that write a form
- `Writes`                  : the texts that write a list of forms
- `parseForms_of_writes`    : what reading such a text returns
-/

namespace FormSnippet

open Json (Value)

/-! ## Records -/

namespace Json

variable {keys : List String} {given : List (Option Value)} {value : Value}

/-- The members of an object with these keys, where those without a value are left out. -/
def membersOf : List String → List (Option Value) → List (String × Value)
  | key :: keys, value :: given => (value.map (key, ·)).toList ++ membersOf keys given
  | _, _ => []

/-- A record is written as an object, with its members in any order and perhaps others among them,
or as an array of its members, of which the last ones may be left out. -/
inductive Recorded (keys : List String) (given : List (Option Value)) : Value → Prop
  | object {members unknown : List (String × Value)} (other : ∀ member ∈ unknown, member.1 ∉ keys)
      (order : members.Perm (membersOf keys given ++ unknown)) : Recorded keys given (.object members)
  | array {items : List Value} {absent : Nat}
      (positions : given = items.map some ++ List.replicate absent none) :
      Recorded keys given (.array items)

theorem membersNamed_other {key : String} {members : List (String × Value)}
    (other : ∀ member ∈ members, member.1 ≠ key) : membersNamed key members = [] := by
  rw [membersNamed, List.filterMap_eq_nil_iff]
  intro member mem
  exact if_neg (other member mem)

theorem membersNamed_append (key : String) (members more : List (String × Value)) :
    membersNamed key (members ++ more) = membersNamed key members ++ membersNamed key more :=
  List.filterMap_append

theorem key_of_mem_membersOf {member : String × Value} (mem : member ∈ membersOf keys given) :
    member.1 ∈ keys := by
  induction keys generalizing given with
  | nil => cases mem
  | cons key keys ih =>
      cases given with
      | nil => cases mem
      | cons value given =>
          rcases List.mem_append.1 mem with here | later
          · cases value with
            | none => cases here
            | some value =>
                rw [List.mem_singleton.1 here]
                exact List.mem_cons_self
          · exact List.mem_cons_of_mem _ (ih later)

/-- Every key has the value that is given for it, or none. -/
theorem membersNamed_membersOf (distinct : keys.Nodup) {key : String} {value : Option Value}
    (here : (key, value) ∈ keys.zip given) : membersNamed key (membersOf keys given) = value.toList := by
  induction keys generalizing given with
  | nil => cases here
  | cons first keys ih =>
      rcases List.nodup_cons.1 distinct with ⟨fresh, distinct⟩
      cases given with
      | nil => cases here
      | cons value' given =>
          rw [membersOf, membersNamed_append]
          rcases List.mem_cons.1 here with same | later
          · obtain ⟨rfl, rfl⟩ := Prod.mk.inj same
            have none : membersNamed key (membersOf keys given) = [] :=
              membersNamed_other fun member mem same => fresh (same ▸ key_of_mem_membersOf mem)
            rw [none, List.append_nil]
            cases value <;> simp [membersNamed]
          · have none : membersNamed key (value'.map (first, ·)).toList = [] := by
              refine membersNamed_other fun member mem same => fresh ?_
              cases value' with
              | none => cases mem
              | some value' =>
                  have same' : first = key := by rw [← same, List.mem_singleton.1 mem]
                  rw [same']
                  exact (List.of_mem_zip later).1
            rw [none, List.nil_append]
            exact ih distinct later

/-- The order of members does not matter where there is at most one of a name. -/
theorem membersNamed_perm {key : String} {members others : List (String × Value)}
    (order : members.Perm others) {value : Option Value}
    (single : membersNamed key others = value.toList) : membersNamed key members = value.toList := by
  have perm : (membersNamed key members).Perm value.toList := by
    rw [← single]
    exact order.filterMap _
  cases value with
  | none => exact perm.eq_nil
  | some value => exact List.perm_singleton.1 perm

theorem Recorded.membersNamed {members : List (String × Value)} (distinct : keys.Nodup)
    (recorded : Recorded keys given (.object members)) {key : String} {value : Option Value}
    (here : (key, value) ∈ keys.zip given) : membersNamed key members = value.toList := by
  cases recorded with
  | @object _ unknown other order =>
      refine membersNamed_perm order ?_
      have none : Json.membersNamed key unknown = [] :=
        membersNamed_other fun member mem same =>
          other member mem (same ▸ (List.of_mem_zip here).1)
      rw [membersNamed_append, membersNamed_membersOf distinct here, none, List.append_nil]

/-- What an array holds at the three positions of a record. -/
theorem Recorded.items {a b c : Option Value} {items : List Value}
    (recorded : Recorded keys [a, b, c] (.array items)) :
    items.length ≤ 3 ∧ items.take 1 = a.toList ∧ (items.drop 1).take 1 = b.toList ∧
      (items.drop 2).take 1 = c.toList := by
  cases recorded with
  | @array _ absent positions =>
      have total : 3 = items.length + absent := by simpa using congrArg List.length positions
      match items, absent, total with
      | [], 3, _ =>
          obtain ⟨rfl, rfl, rfl⟩ : a = none ∧ b = none ∧ c = none := by
            simpa [List.replicate] using positions
          simp
      | [x], 2, _ =>
          obtain ⟨rfl, rfl, rfl⟩ : a = some x ∧ b = none ∧ c = none := by
            simpa [List.replicate] using positions
          simp
      | [x, y], 1, _ =>
          obtain ⟨rfl, rfl, rfl⟩ : a = some x ∧ b = some y ∧ c = none := by
            simpa using positions
          simp
      | [x, y, z], 0, _ =>
          obtain ⟨rfl, rfl, rfl⟩ : a = some x ∧ b = some y ∧ c = some z := by
            simpa using positions
          simp

/-- A record with three members, as it is read from the values given for them. -/
theorem Recorded.reads {α : Type} {k₁ k₂ k₃ : String} {a b c : Option Value}
    (distinct : [k₁, k₂, k₃].Nodup) (recorded : Recorded [k₁, k₂, k₃] [a, b, c] value)
    {ofParts : List Value → List Value → List Value → Option α} {ofJson : Value → Option α}
    (object : ∀ members, ofJson (.object members) = ofParts (Json.membersNamed k₁ members)
      (Json.membersNamed k₂ members) (Json.membersNamed k₃ members))
    (array : ∀ items, items.length ≤ 3 → ofJson (.array items) =
      ofParts (items.take 1) ((items.drop 1).take 1) ((items.drop 2).take 1)) :
    ofJson value = ofParts a.toList b.toList c.toList := by
  cases value with
  | object members =>
      have first : (k₁, a) ∈ [k₁, k₂, k₃].zip [a, b, c] := by simp
      have second : (k₂, b) ∈ [k₁, k₂, k₃].zip [a, b, c] := by simp
      have third : (k₃, c) ∈ [k₁, k₂, k₃].zip [a, b, c] := by simp
      rw [object, recorded.membersNamed distinct first, recorded.membersNamed distinct second,
        recorded.membersNamed distinct third]
  | array items =>
      rcases recorded.items with ⟨few, first, second, third⟩
      rw [array items few, first, second, third]
  | _ => cases recorded

/-- An option that is absent is written as `null` or left out. -/
inductive OptionWritten : Option String → Option Value → Prop
  | text (text : String) : OptionWritten (some text) (some (.string text))
  | null : OptionWritten none (some .null)
  | absent : OptionWritten none none

theorem OptionWritten.reads {option : Option String} {value : Option Value}
    (written : OptionWritten option value) :
    optional? none Value.optionalText? value.toList = some option := by
  cases written <;> rfl

theorem listOf?_reads {α : Type} {element? : Value → Option α} {xs : List α} {values : List Value}
    (each : List.Forall₂ (fun x value => element? value = some x) xs values) :
    Value.listOf? element? (.array values) = some xs := by
  have all : values.mapM element? = some xs := by
    induction each with
    | nil => rfl
    | cons first rest ih => simp [first, ih]
  exact all

end Json

/-! ## Fields and forms -/

namespace FieldDefinition

/-- The values that write a field. -/
def Written (field : FieldDefinition) (value : Value) : Prop :=
  ∃ label description, Json.OptionWritten field.label label ∧
    Json.OptionWritten field.description description ∧
    Json.Recorded ["name", "label", "description"]
      [some (.string field.name), label, description] value

theorem Written.reads {field : FieldDefinition} {value : Value} (written : field.Written value) :
    ofJson? value = some field := by
  rcases written with ⟨label, description, hlabel, hdescription, recorded⟩
  have parts : ofJson? value =
      ofParts? (some (Value.string field.name)).toList label.toList description.toList :=
    recorded.reads (by decide) (fun _ => rfl) fun items few => if_pos few
  rw [parts]
  simp [ofParts?, Json.required?, Value.text?, hlabel.reads, hdescription.reads]

end FieldDefinition

namespace Form

/-- The values that write the fields of a form; where there are none the list may be left out. -/
inductive FieldsWritten : List FieldDefinition → Option Value → Prop
  | list {fields : List FieldDefinition} {values : List Value}
      (each : List.Forall₂ FieldDefinition.Written fields values) :
      FieldsWritten fields (some (.array values))
  | absent : FieldsWritten [] none

theorem FieldsWritten.reads {fields : List FieldDefinition} {value : Option Value}
    (written : FieldsWritten fields value) :
    Json.optional? [] (Value.listOf? FieldDefinition.ofJson?) value.toList = some fields := by
  cases written with
  | list each => exact Json.listOf?_reads (each.imp fun _ _ written => written.reads)
  | absent => rfl

/-- The values that write a form. -/
def Written (form : Form) (value : Value) : Prop :=
  ∃ title fields, Json.OptionWritten form.title title ∧ FieldsWritten form.fields fields ∧
    Json.Recorded ["name", "title", "fields"] [some (.string form.name), title, fields] value

theorem Written.reads {form : Form} {value : Value} (written : form.Written value) :
    ofJson? value = some form := by
  rcases written with ⟨title, fields, htitle, hfields, recorded⟩
  have parts : ofJson? value =
      ofParts? (some (Value.string form.name)).toList title.toList fields.toList :=
    recorded.reads (by decide) (fun _ => rfl) fun items few => if_pos few
  rw [parts]
  simp [ofParts?, Json.required?, Value.text?, htitle.reads, hfields.reads]

end Form

/-! ## Documents -/

/-- The values that write a list of forms: the list alone, or settings that it is a member of. -/
inductive DocumentWritten (forms : List Form) : Value → Prop
  | list {values : List Value} (each : List.Forall₂ Form.Written forms values) :
      DocumentWritten forms (.array values)
  | settings {values : List Value} {members unknown : List (String × Value)}
      (each : List.Forall₂ Form.Written forms values)
      (other : ∀ member ∈ unknown, member.1 ≠ "formDefinitions")
      (order : members.Perm (("formDefinitions", .array values) :: unknown)) :
      DocumentWritten forms (.object members)

theorem DocumentWritten.reads {forms : List Form} {value : Value}
    (written : DocumentWritten forms value) : formsOf? value = some forms := by
  have list {values : List Value} (each : List.Forall₂ Form.Written forms values) :
      Value.listOf? Form.ofJson? (.array values) = some forms :=
    Json.listOf?_reads (each.imp fun _ _ written => written.reads)
  cases written with
  | list each => exact list each
  | @settings values members unknown each other order =>
      have single : Json.membersNamed "formDefinitions" members = [.array values] := by
        have none := Json.membersNamed_other other
        rw [Json.membersNamed] at none
        have one : Json.membersNamed "formDefinitions" (("formDefinitions", .array values) :: unknown)
            = (some (Value.array values)).toList := by
          simp [Json.membersNamed, none]
        exact Json.membersNamed_perm order one
      rw [formsOf?, single]
      exact list each

/-- The texts that write a list of forms. -/
def Writes (text : String) (forms : List Form) : Prop :=
  ∃ value before cs after, DocumentWritten forms value ∧ Json.Spelled Json.maxLevels value cs ∧
    Json.Blank before ∧ Json.Blank after ∧ text.toList = before ++ (cs ++ after)

theorem readDocument_of_writes {text : String} {forms : List Form} (writes : Writes text forms) :
    readDocument text = .ok forms := by
  rcases writes with ⟨value, before, cs, after, written, spelt, hbefore, hafter, whole⟩
  rcases Json.readValue_text hbefore spelt hafter with ⟨reads, last⟩
  simp only [readDocument, readForms, whole, reads, written.reads, last]

/-! ## Usable forms -/

/-- The field at a position, unless its name occurs at an earlier one. -/
def fresh? (fields : List FieldDefinition) (entry : FieldDefinition × Nat) :
    Option FieldDefinition :=
  if entry.1.name ∈ (fields.take entry.2).map (·.name) then none else some entry.1

/-- The fields whose names have not occurred before. -/
def firstOccurrences (fields : List FieldDefinition) : List FieldDefinition :=
  fields.zipIdx.filterMap (fresh? fields)

/-- The names seen so far are those of the fields before. -/
theorem dedupFrom_eq {seen : List String} {earlier fields : List FieldDefinition}
    (same : ∀ name, name ∈ seen ↔ name ∈ earlier.map (·.name)) :
    dedupFrom seen fields =
      (fields.zipIdx earlier.length).filterMap (fresh? (earlier ++ fields)) := by
  induction fields generalizing seen earlier with
  | nil => rfl
  | cons field fields ih =>
      have before : (earlier ++ field :: fields).take earlier.length = earlier := List.take_left
      have shift : earlier ++ field :: fields = earlier ++ [field] ++ fields := by simp
      have next : earlier.length + 1 = (earlier ++ [field]).length := by simp
      rw [dedupFrom, List.zipIdx_cons]
      by_cases known : field.name ∈ seen
      · have dropped : fresh? (earlier ++ field :: fields) (field, earlier.length) = none := by
          rw [fresh?, before, if_pos ((same field.name).1 known)]
        have same' : ∀ name, name ∈ seen ↔ name ∈ (earlier ++ [field]).map (·.name) := by
          intro name
          rw [List.map_append, List.mem_append, ← same name]
          constructor
          · exact .inl
          · rintro (old | new)
            · exact old
            · rw [List.mem_singleton.1 new]
              exact known
        rw [if_pos known, List.filterMap_cons_none dropped, shift, next]
        exact ih same'
      · have kept : fresh? (earlier ++ field :: fields) (field, earlier.length) = some field := by
          rw [fresh?, before, if_neg fun old => known ((same field.name).2 old)]
        have same' : ∀ name, name ∈ field.name :: seen ↔
            name ∈ (earlier ++ [field]).map (·.name) := by
          intro name
          rw [List.map_append, List.mem_append, ← same name, List.mem_cons, or_comm]
          simp
        rw [if_neg known, List.filterMap_cons_some kept, shift, next]
        exact congrArg (field :: ·) (ih same')

theorem dedupFrom_nil (fields : List FieldDefinition) :
    dedupFrom [] fields = firstOccurrences fields := by
  have none : ∀ name, name ∈ ([] : List String) ↔
      name ∈ ([] : List FieldDefinition).map (·.name) := fun _ => Iff.rfl
  exact dedupFrom_eq none

/-- Trimming leaves nothing of a text that is blank, and only of such a text. -/
theorem trim_eq_empty_iff (text : String) : Text.trim text = "" ↔ Text.allBlank text = true := by
  have chars : Text.trimChars text.toList = [] ↔ ∀ c ∈ text.toList, Text.isBlank c := by
    rw [Text.trimChars, List.reverse_eq_nil_iff, List.dropWhile_eq_nil_iff]
    constructor
    · intro blank
      refine List.dropWhile_eq_nil_iff.1 ?_
      by_contra some
      have first := List.head_dropWhile_not Text.isBlank some
      rw [blank _ (List.mem_reverse.2 (List.head_mem some))] at first
      cases first
    · intro blank c mem
      rw [List.dropWhile_eq_nil_iff.2 blank] at mem
      cases mem
  rw [Text.trim, Text.allBlank, List.all_eq_true, ← chars]
  constructor
  · intro empty
    exact String.ofList_injective empty
  · intro empty
    rw [empty]

theorem isNamed_eq (form : Form) : form.isNamed = decide (Text.trim form.name ≠ "") := by
  rw [Form.isNamed, Bool.eq_iff_iff]
  simp [trim_eq_empty_iff]

/-- Whatever text writes forms, they come back as they are and in order, but for those whose name is
blank and for fields whose name has occurred before in their form. -/
theorem parseForms_of_writes {text : String} {forms : List Form} (writes : Writes text forms) :
    parseForms text = .ok ((forms.filter fun form => Text.trim form.name ≠ "").map fun form =>
      { form with fields := firstOccurrences form.fields }) := by
  have named : forms.filter Form.isNamed = forms.filter fun form => Text.trim form.name ≠ "" :=
    List.filter_congr fun form _ => isNamed_eq form
  have dedup : Form.dedupFields = fun form =>
      { form with fields := firstOccurrences form.fields } := by
    funext form
    rw [Form.dedupFields, dedupFrom_nil]
  rw [parseForms, readDocument_of_writes writes, Except.map, Form.usable, named, dedup]

/-! ### All kinds of writing at once -/

section Mixed

open Json

def mixedNumber : Literal :=
  { negative := true, whole := ['1'], fraction := some ['5'], exponent := some ⟨'E', none, ['9']⟩ }

/-- A field as an object, after a member that is not known. -/
def mixedField : Value :=
  .object [("x", .array [.number (String.ofList mixedNumber.chars)]), ("name", .string "a")]

/-- Settings with two forms, the second one blank.  The first is written as an array, with an escape
in its name and `null` for its title, and has the same field twice. -/
def mixedValue : Value :=
  .object [("formDefinitions", .array [
    .array [.string "A", .null, .array [mixedField, .array [.string "a"]]], .array [.string " "]])]

/-- The settings without white space, but for one blank at the end. -/
def mixedText : String :=
  "\x7b\"formDefinitions\":[[\"\\u0041\",null,[\x7b\"x\":[-1.5E9],\"name\":\"a\"\x7d,[\"a\"]]],[\" \"]]\x7d "

def mixedForms : List Form :=
  [⟨"A", none, [⟨"a", none, none⟩, ⟨"a", none, none⟩]⟩, ⟨" ", none, []⟩]

theorem mixedValue_written : DocumentWritten mixedForms mixedValue := by
  have object : FieldDefinition.Written ⟨"a", none, none⟩ mixedField :=
    ⟨none, none, .absent, .absent,
      @Recorded.object _ _ _ [("x", .array [.number (String.ofList mixedNumber.chars)])]
        (by decide) (.swap _ _ _)⟩
  have array : FieldDefinition.Written ⟨"a", none, none⟩ (.array [.string "a"]) :=
    ⟨none, none, .absent, .absent, @Recorded.array _ _ _ 2 rfl⟩
  have first : Form.Written ⟨"A", none, [⟨"a", none, none⟩, ⟨"a", none, none⟩]⟩
      (.array [.string "A", .null, .array [mixedField, .array [.string "a"]]]) :=
    ⟨_, _, .null, .list (.cons object (.cons array .nil)), @Recorded.array _ _ _ 0 rfl⟩
  have second : Form.Written ⟨" ", none, []⟩ (.array [.string " "]) :=
    ⟨none, none, .absent, .absent, @Recorded.array _ _ _ 2 rfl⟩
  exact @DocumentWritten.settings _ _ _ [] (.cons first (.cons second .nil)) nofun (.refl _)

theorem mixedNumber_proper : mixedNumber.Proper where
  whole := by decide
  noZero := by decide
  fraction := by
    rintro ds ⟨⟩
    decide
  exponent := by
    rintro exponent ⟨⟩
    exact ⟨.inr rfl, nofun, by decide⟩

theorem mixedText_writes : Writes mixedText mixedForms := by
  have gap : Blank [] := by decide
  have string (levels : Nat) (text : String) :
      Spelled levels (.string text) (quoteChars text.toList) :=
    .flat (.string (quoteChars_spelling text))
  have number (levels : Nat) : Spelled levels (.number (String.ofList mixedNumber.chars)) _ :=
    .flat (.number mixedNumber mixedNumber_proper (by decide +kernel))
  have field : Spelled 123 mixedField _ :=
    .nest (.object (.some gap (.mk (quoteChars_spelling "x") gap gap
      (.nest (.array (.some gap (number _) (.last gap)))))
      (.next gap gap (.mk (quoteChars_spelling "name") gap gap (string _ "a")) (.last gap))))
  have fields : Spelled 124 (.array [_, .array [.string "a"]]) _ :=
    .nest (.array (.some gap field
      (.next gap gap (.nest (.array (.some gap (string _ "a") (.last gap)))) (.last gap))))
  have escaped : CharSpelling 'A' ['\\', 'u', '0', '0', '4', '1'] :=
    .code ⟨0, 0, 4, 1, by decide, by decide⟩
  have name : TextSpelling "A" _ :=
    ⟨_, .cons escaped .nil, rfl⟩
  have form : Spelled 125 (.array [.string "A", .null, _]) _ :=
    .nest (.array (.some gap (.flat (.string name))
      (.next gap gap (.flat .null) (.next gap gap fields (.last gap)))))
  have forms : Spelled 126 (.array [_, .array [.string " "]]) _ :=
    .nest (.array (.some gap form
      (.next gap gap (.nest (.array (.some gap (string _ " ") (.last gap)))) (.last gap))))
  have settings : Spelled maxLevels mixedValue _ :=
    .nest (.object (.some gap
      (.mk (quoteChars_spelling "formDefinitions") gap gap forms) (.last gap)))
  exact ⟨mixedValue, [], _, [' '], mixedValue_written, settings, gap, by decide, by decide +kernel⟩

theorem parseForms_mixedText : Writes mixedText mixedForms ∧
    parseForms mixedText = .ok [⟨"A", none, [⟨"a", none, none⟩]⟩] := by
  refine ⟨mixedText_writes, (parseForms_of_writes mixedText_writes).trans ?_⟩
  decide +kernel

end Mixed

end FormSnippet
