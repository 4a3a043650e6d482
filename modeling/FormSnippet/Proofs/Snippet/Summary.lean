import FormSnippet.Proofs.Snippet.Reading

/-!
# Summary — what the text of a snippet depends on

A selection has more to it than the text of its snippet shows.  What the text shows is its summary:
the name of the form, the options, the omitted names in order, and a choice for the frontmatter.
Two selections have the same text exactly if they have the same summary.

- `choice`          : nothing, everything, or the flagged names
- `summary`         : the summary of a selection
- `compile_eq_iff`  : the text and the summary determine each other
-/

namespace FormSnippet

/-! ## Summaries -/

/-- The choice for the frontmatter that a selection comes to. -/
def choice (fields : List Field) : Frontmatter :=
  let included := Snippet.includedFields fields
  if ∀ field ∈ included, ¬ field.onFrontmatter then .nothing
  else if ∀ field ∈ included, field.onFrontmatter then .everything
  else .pick ((included.filter (·.onFrontmatter)).map (·.name))

def summary (formName : String) (fields : List Field) (options : Options) : Snippet :=
  { formName
    options
    omitted := Snippet.omittedNames fields
    frontmatter := choice fields }

/-- Counting the flagged fields tells whether there are any, and whether all are. -/
theorem frontmatterOf_eq_choice (fields : List Field) :
    Snippet.frontmatterOf fields = choice fields := by
  have none : ((Snippet.includedFields fields).filter (·.onFrontmatter)).isEmpty ↔
      ∀ field ∈ Snippet.includedFields fields, ¬ field.onFrontmatter := by
    rw [List.isEmpty_iff, List.filter_eq_nil_iff]
  have all : ((Snippet.includedFields fields).filter (·.onFrontmatter)).length =
      (Snippet.includedFields fields).length ↔
        ∀ field ∈ Snippet.includedFields fields, field.onFrontmatter :=
    List.length_filter_eq_length_iff
  simp only [Snippet.frontmatterOf, choice, none, all]

theorem ofFields_eq_summary (formName : String) (fields : List Field) (options : Options) :
    Snippet.ofFields formName fields options = summary formName fields options := by
  rw [Snippet.ofFields, frontmatterOf_eq_choice]
  rfl

/-! ## What a summary leaves out -/

/-- The names of the included fields, each with its flag for the frontmatter. -/
def shown (fields : List Field) : List (String × Bool) :=
  (Snippet.includedFields fields).map fun field => (field.name, field.onFrontmatter)

theorem choice_eq_shown (fields : List Field) : choice fields =
    if ∀ entry ∈ shown fields, ¬ entry.2 then .nothing
    else if ∀ entry ∈ shown fields, entry.2 then .everything
    else .pick (((shown fields).filter (·.2)).map (·.1)) := by
  have picked : ((shown fields).filter (·.2)).map (·.1) =
      ((Snippet.includedFields fields).filter (·.onFrontmatter)).map (·.name) := by
    rw [shown, List.filter_map, List.map_map]
    rfl
  rw [picked]
  simp only [choice, shown, List.forall_mem_map]

section Same

variable {fields fields' : List Field}
  (omitted : Snippet.omittedNames fields = Snippet.omittedNames fields')
  (formName : String) (options : Options)

include omitted

/-- The flags for the body do not count, nor does the place of the omitted fields among the
others. -/
theorem summary_eq_of_shown (included : shown fields = shown fields') :
    summary formName fields options = summary formName fields' options := by
  simp only [summary, choice_eq_shown, omitted, included]

/-- Where no names are picked, those of the included fields do not count either. -/
theorem summary_eq_of_flags
    (included : (shown fields).map (·.2) = (shown fields').map (·.2))
    (unpicked : ∀ names, choice fields ≠ .pick names) :
    summary formName fields options = summary formName fields' options := by
  have flags (p : Bool → Prop) :
      (∀ entry ∈ shown fields, p entry.2) ↔ ∀ entry ∈ shown fields', p entry.2 := by
    have list (fields : List Field) :
        (∀ flag ∈ (shown fields).map (·.2), p flag) ↔ ∀ entry ∈ shown fields, p entry.2 :=
      List.forall_mem_map
    rw [← list fields, included, list fields']
  have none := flags fun flag => ¬ flag
  have all := flags fun flag => flag
  have same : choice fields = choice fields' := by
    rw [choice_eq_shown] at unpicked ⊢
    rw [choice_eq_shown]
    simp only [none, all] at unpicked ⊢
    split_ifs at unpicked ⊢
    · rfl
    · rfl
    · exact absurd rfl (unpicked _)
  simp only [summary, omitted, same]

end Same

/-! ## Selections with the same text -/

theorem compile_eq_text (formName : String) (fields : List Field) (options : Options) :
    compile formName fields options = (summary formName fields options).text := by
  rw [compile, ofFields_eq_summary]

/-- Two selections have the same text exactly if they have the same summary.  So the text changes
neither with the flags for the body nor with the place of the omitted fields among the others, nor,
unless names are picked, with the names of the included fields. -/
theorem compile_eq_iff (formName formName' : String) (fields fields' : List Field)
    (options options' : Options) :
    (compile formName fields options = compile formName' fields' options' ↔
      summary formName fields options = summary formName' fields' options') ∧
    (Snippet.omittedNames fields = Snippet.omittedNames fields' →
      (shown fields = shown fields' ∨
        (shown fields).map (·.2) = (shown fields').map (·.2) ∧
          ∀ names, choice fields ≠ .pick names) →
      compile formName fields options = compile formName fields' options) := by
  refine ⟨?_, ?_⟩
  · rw [compile_eq_text, compile_eq_text]
    exact Snippet.text_injective.eq_iff
  · rintro omitted (included | ⟨flags, unpicked⟩)
    · rw [compile_eq_text, compile_eq_text, summary_eq_of_shown omitted formName options included]
    · rw [compile_eq_text, compile_eq_text,
        summary_eq_of_flags omitted formName options flags unpicked]

/-- An omitted field has changed its place, and the other one has got a flag for the body. -/
theorem compile_eq_iff_moved :
    let fields : List Field := [⟨"date", .omitted⟩, ⟨"amount", .included true false⟩]
    let fields' : List Field := [⟨"amount", .included true true⟩, ⟨"date", .omitted⟩]
    Snippet.omittedNames fields = Snippet.omittedNames fields' ∧ shown fields = shown fields' ∧
      compile "Invoice" fields {} = compile "Invoice" fields' {} := by
  intro fields fields'
  have omitted : Snippet.omittedNames fields = Snippet.omittedNames fields' := rfl
  have included : shown fields = shown fields' := rfl
  have law := compile_eq_iff "Invoice" "Invoice" fields fields' {} {}
  exact ⟨omitted, included, law.2 omitted (.inl included)⟩

end FormSnippet
