import FormSnippet.FormsFile

/-!
# Usable — what is known of forms that have been loaded

Loading hands over a list of forms only if there is a form in it, and every form that it hands over
has gone through the rules for usable forms.  In particular the names of its fields are pairwise
different.

- `dedupFrom_nodup`             : no name is kept twice
- `Form.nodup_of_mem_usable`    : the field names of a usable form
- `Source.load_ok`              : the forms of a load that has succeeded
-/

namespace FormSnippet

/-! ## Repeated names -/

/-- A name that has occurred already is not kept. -/
theorem not_seen_of_mem_dedupFrom {seen : List String} {fields : List FieldDefinition}
    {field : FieldDefinition} (kept : field ∈ dedupFrom seen fields) : field.name ∉ seen := by
  induction fields generalizing seen with
  | nil => cases kept
  | cons first rest ih =>
      rw [dedupFrom] at kept
      split at kept
      · exact ih kept
      · next fresh =>
          rcases List.mem_cons.1 kept with rfl | later
          · exact fresh
          · have absent : field.name ∉ first.name :: seen := ih later
            exact fun earlier => absent (List.mem_cons_of_mem _ earlier)

theorem dedupFrom_nodup (seen : List String) (fields : List FieldDefinition) :
    ((dedupFrom seen fields).map (·.name)).Nodup := by
  -- A name that is kept is among those seen from there on.
  induction fields generalizing seen with
  | nil => exact List.nodup_nil
  | cons first rest ih =>
      rw [dedupFrom]
      split
      · exact ih seen
      · rw [List.map_cons, List.nodup_cons]
        refine ⟨?_, ih (first.name :: seen)⟩
        intro again
        rcases List.mem_map.1 again with ⟨field, kept, same⟩
        have unseen := not_seen_of_mem_dedupFrom kept
        exact unseen (by simp [same])

namespace Form

theorem nodup_of_mem_usable {forms : List Form} {form : Form} (mem : form ∈ usable forms) :
    form.fieldNames.Nodup := by
  rcases List.mem_map.1 mem with ⟨declared, -, rfl⟩
  exact dedupFrom_nodup [] declared.fields

end Form

/-! ## Loading -/

theorem loadForms_ok {disk : Disk} {path : Path} {forms : List Form}
    (ok : (loadForms disk path).2 = .ok forms) :
    forms ≠ [] ∧ ∃ document, forms = Form.usable document := by
  unfold loadForms at ok
  split at ok
  · cases ok
  · split at ok
    · cases ok
    · next document _ =>
        dsimp only at ok
        split at ok
        · cases ok
        · next usable =>
            cases ok
            exact ⟨fun empty => usable (List.isEmpty_iff.2 empty), document, rfl⟩

/-- A load that succeeds ends with reading the file that is there after preparing it. -/
theorem Source.load_ok {source : Source} {disk : Disk} {forms : List Form}
    (ok : (source.load disk).result = .ok forms) :
    forms ≠ [] ∧ ∀ form ∈ forms, form.fieldNames.Nodup := by
  unfold Source.load at ok
  split at ok
  · cases ok
  · next prepared _ _ =>
      have read : (loadForms prepared source.path).2 = .ok forms := ok
      rcases loadForms_ok read with ⟨nonempty, document, rfl⟩
      exact ⟨nonempty, fun form mem => Form.nodup_of_mem_usable mem⟩

end FormSnippet
