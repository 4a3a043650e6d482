import FormSnippet.Proofs.Form.Usable
import FormSnippet.Proofs.Form.Written

/-!
# Kept — what loading keeps of a document

Loading leaves out the forms whose names are blank, and of several fields with one name all but the
first.  It leaves out nothing else: every other form is there, in the order of the document, and
every name that the form declares is there once, as it was declared first.

- `Form.WellFormed`     : a form that has a name, with fields that can be told apart
- `Form.KeptFrom`       : a form as loading keeps it
- `Form.usable_usable`  : there is nothing to leave out of what has been kept
- `loadForms_kept`      : what loading returns, for every file
-/

namespace FormSnippet

/-! ## Fields -/

theorem dedupFrom_sublist (seen : List String) (fields : List FieldDefinition) :
    (dedupFrom seen fields).Sublist fields := by
  induction fields generalizing seen with
  | nil => exact .slnil
  | cons field fields ih =>
      rw [dedupFrom]
      split
      · exact (ih seen).cons field
      · exact (ih (field.name :: seen)).cons_cons field

/-- Of the fields with a name that has not occurred yet the first one is kept. -/
theorem filter_dedupFrom {name : String} {seen : List String} (unseen : name ∉ seen)
    (fields : List FieldDefinition) :
    (dedupFrom seen fields).filter (·.name = name) = (fields.find? (·.name = name)).toList := by
  induction fields generalizing seen with
  | nil => rfl
  | cons field fields ih =>
      by_cases here : field.name = name
      · have kept : field.name ∉ seen := by
          rw [here]
          exact unseen
        -- From here on the name has occurred.
        have later : (dedupFrom (field.name :: seen) fields).filter (·.name = name) = [] := by
          rw [List.filter_eq_nil_iff]
          intro other mem same
          have fresh := not_seen_of_mem_dedupFrom mem
          rw [of_decide_eq_true same, here] at fresh
          exact fresh List.mem_cons_self
        calc (dedupFrom seen (field :: fields)).filter (·.name = name)
            = (field :: dedupFrom (field.name :: seen) fields).filter (·.name = name) := by
              rw [dedupFrom, if_neg kept]
          _ = [field] := by rw [List.filter_cons_of_pos (by simpa using here), later]
          _ = ((field :: fields).find? (·.name = name)).toList := by
              rw [List.find?_cons_of_pos (by simpa using here), Option.toList_some]
      · rw [List.find?_cons_of_neg (by simpa using here), dedupFrom]
        split
        · exact ih unseen
        · rw [List.filter_cons_of_neg (by simpa using here)]
          apply ih
          intro mem
          rcases List.mem_cons.1 mem with same | seen
          · exact here same.symm
          · exact unseen seen

theorem dedupFrom_eq_self {seen : List String} {fields : List FieldDefinition}
    (distinct : (fields.map (·.name)).Nodup) (fresh : ∀ field ∈ fields, field.name ∉ seen) :
    dedupFrom seen fields = fields := by
  induction fields generalizing seen with
  | nil => rfl
  | cons field fields ih =>
      rw [List.map_cons, List.nodup_cons] at distinct
      rcases distinct with ⟨once, distinct⟩
      have fresh' : ∀ other ∈ fields, other.name ∉ field.name :: seen := by
        intro other mem again
        rcases List.mem_cons.1 again with same | earlier
        · exact once (same ▸ List.mem_map_of_mem mem)
        · exact fresh other (List.mem_cons_of_mem field mem) earlier
      rw [dedupFrom, if_neg (fresh field List.mem_cons_self), ih distinct fresh']

/-! ## Forms -/

namespace Form

/-- The name has a character that is not blank. -/
def HasName (form : Form) : Prop :=
  ∃ c ∈ form.name.toList, Text.isBlank c = false

instance : DecidablePred HasName := fun form =>
  inferInstanceAs (Decidable (∃ c ∈ form.name.toList, Text.isBlank c = false))

theorem isNamed_eq_hasName (form : Form) : form.isNamed = decide form.HasName := by
  rw [Bool.eq_iff_iff, decide_eq_true_iff, isNamed, Text.allBlank, Bool.not_eq_true',
    List.all_eq_false, HasName]
  simp only [Bool.not_eq_true]

/-- A form that can be selected and whose fields are told apart by their names. -/
structure WellFormed (form : Form) : Prop where
  named : form.HasName
  distinct : form.fieldNames.Nodup

/-- The form is the declared one, with those of its fields whose names have not occurred before:
each declared name once, as it was declared first. -/
structure KeptFrom (form declared : Form) : Prop where
  name : form.name = declared.name
  title : form.title = declared.title
  sublist : form.fields.Sublist declared.fields
  fields : form.fields = firstOccurrences declared.fields
  once : ∀ name, form.fields.filter (·.name = name) =
    (declared.fields.find? (·.name = name)).toList

theorem dedupFields_keptFrom (declared : Form) : declared.dedupFields.KeptFrom declared where
  name := rfl
  title := rfl
  sublist := dedupFrom_sublist [] declared.fields
  fields := dedupFrom_nil declared.fields
  once _ := filter_dedupFrom List.not_mem_nil declared.fields

theorem filter_isNamed (forms : List Form) :
    forms.filter isNamed = forms.filter (·.HasName) :=
  List.filter_congr fun form _ => isNamed_eq_hasName form

theorem usable_keptFrom (forms : List Form) :
    List.Forall₂ KeptFrom (usable forms) (forms.filter (·.HasName)) := by
  rw [usable, filter_isNamed, List.forall₂_map_left_iff, List.forall₂_same]
  exact fun declared _ => dedupFields_keptFrom declared

theorem wellFormed_of_mem_usable {forms : List Form} {form : Form} (mem : form ∈ usable forms) :
    form.WellFormed where
  named := by
    rcases List.mem_map.1 mem with ⟨declared, kept, rfl⟩
    rw [List.mem_filter, isNamed_eq_hasName, decide_eq_true_iff] at kept
    exact kept.2
  distinct := nodup_of_mem_usable mem

theorem usable_eq_self {forms : List Form} (wellFormed : ∀ form ∈ forms, form.WellFormed) :
    usable forms = forms := by
  have named : forms.filter isNamed = forms := by
    rw [List.filter_eq_self]
    intro form mem
    rw [isNamed_eq_hasName, decide_eq_true_iff]
    exact (wellFormed form mem).named
  have deduplicated : ∀ form ∈ forms, form.dedupFields = form := by
    intro form mem
    rw [dedupFields, dedupFrom_eq_self (wellFormed form mem).distinct fun _ _ => List.not_mem_nil]
  calc usable forms
      = forms.map dedupFields := by rw [usable, named]
    _ = forms.map id := List.map_congr_left deduplicated
    _ = forms := List.map_id forms

theorem usable_usable (forms : List Form) : usable (usable forms) = usable forms :=
  usable_eq_self fun _ mem => wellFormed_of_mem_usable mem

theorem usable_eq_nil_iff {forms : List Form} :
    usable forms = [] ↔ ∀ form ∈ forms, ¬ form.HasName := by
  rw [usable, filter_isNamed, List.map_eq_nil_iff, List.filter_eq_nil_iff]
  simp only [decide_eq_true_iff]

end Form

/-! ## Files -/

/-- A file that cannot be loaded is one that cannot be read, does not hold forms, or holds none that
has a name.  From any other file comes a list with a form for each one that has a name, in the order
of the file; all of them are well-formed, and the rules for usable forms leave them as they are. -/
theorem loadForms_kept (disk : Disk) (path : Path) :
    (∃ error, (loadForms disk path).2 = .error error ∧
      ∀ text document, disk.read path = .ok text → readDocument text = .ok document →
        ∀ form ∈ document, ¬ form.HasName) ∨
    ∃ text document forms, disk.read path = .ok text ∧ readDocument text = .ok document ∧
      (loadForms disk path).2 = .ok forms ∧
      forms ≠ [] ∧ (∀ form ∈ forms, form.WellFormed) ∧
      List.Forall₂ Form.KeptFrom forms (document.filter (·.HasName)) ∧
      Form.usable forms = forms := by
  rcases read : disk.read path with cause | text
  · have failed : (loadForms disk path).2 = .error (.read path cause) := by
      simp only [loadForms, read]
    exact .inl ⟨_, failed, nofun⟩
  rcases parsed : readDocument text with cause | document
  · have failed : (loadForms disk path).2 = .error (.parse path cause) := by
      simp only [loadForms, read, parsed]
    refine .inl ⟨_, failed, ?_⟩
    rintro _ document ⟨⟩ parsed'
    rw [parsed] at parsed'
    cases parsed'
  by_cases nameless : Form.usable document = []
  · have failed : (loadForms disk path).2 = .error (.noForms path) := by
      simp [loadForms, read, parsed, nameless]
    refine .inl ⟨_, failed, ?_⟩
    rintro _ document ⟨⟩ parsed'
    rw [parsed] at parsed'
    cases parsed'
    exact Form.usable_eq_nil_iff.1 nameless
  · have loaded : (loadForms disk path).2 = .ok (Form.usable document) := by
      simp [loadForms, read, parsed, nameless]
    exact .inr ⟨text, document, _, rfl, parsed, loaded, nameless,
      fun _ mem => Form.wellFormed_of_mem_usable mem, Form.usable_keptFrom document,
      Form.usable_usable document⟩

end FormSnippet
