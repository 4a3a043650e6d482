import FormSnippet.Form
import FormSnippet.Proofs.Snippet.Summary
import Mathlib.Data.Set.Defs

/-!
# Offer — the snippets that there are for a form

A form offers a snippet for every choice of its fields and all options.  The flags for the body do
not show in it, so it is enough to choose for each field whether it is omitted, written into the
frontmatter, or neither.

- `Choice.bare`         : a choice without its flag for the body
- `compile_map_bare`    : the snippet does not show that flag
- `Form.offers`         : the snippets for a form
-/

namespace FormSnippet

/-! ## Choices as they show -/

def Choice.bare : Choice → Choice
  | .included frontmatter _ => .included frontmatter false
  | .omitted => .omitted

def Field.bare (field : Field) : Field :=
  { field with choice := field.choice.bare }

namespace Field

variable (field : Field)

@[simp] theorem bare_name : field.bare.name = field.name := rfl

@[simp] theorem bare_isOmitted : field.bare.isOmitted = field.isOmitted := by
  rcases field with ⟨name, _ | _⟩ <;> rfl

@[simp] theorem bare_onFrontmatter : field.bare.onFrontmatter = field.onFrontmatter := by
  rcases field with ⟨name, _ | _⟩ <;> rfl

/-- What shows of a field determines it but for its flag for the body. -/
theorem bare_eq_of_shown {field field' : Field} (name : field.name = field'.name)
    (omitted : field.isOmitted = field'.isOmitted)
    (frontmatter : field.onFrontmatter = field'.onFrontmatter) : field.bare = field'.bare := by
  rcases field with ⟨_, _ | _⟩ <;> rcases field' with ⟨_, _ | _⟩ <;>
    simp_all [isOmitted, onFrontmatter, Choice.isOmitted, Choice.onFrontmatter, bare, Choice.bare]

end Field

theorem omittedNames_map_bare (fields : List Field) :
    Snippet.omittedNames (fields.map Field.bare) = Snippet.omittedNames fields := by
  simp only [Snippet.omittedNames, List.filter_map, List.map_map]
  congr 1
  simp [Function.comp_def]

theorem shown_map_bare (fields : List Field) : shown (fields.map Field.bare) = shown fields := by
  simp only [shown, Snippet.includedFields, List.filter_map, List.map_map]
  congr 1
  · simp [Function.comp_def]
  · simp [Function.comp_def]

theorem compile_map_bare (formName : String) (fields : List Field) (options : Options) :
    compile formName (fields.map Field.bare) options = compile formName fields options := by
  rw [compile_eq_text, compile_eq_text,
    summary_eq_of_shown (omittedNames_map_bare fields) formName options (shown_map_bare fields)]

theorem compile_eq_of_bare {fields fields' : List Field}
    (same : fields.map Field.bare = fields'.map Field.bare) (formName : String)
    (options : Options) : compile formName fields options = compile formName fields' options := by
  rw [← compile_map_bare formName fields, same, compile_map_bare]

/-! ## The snippets for a form -/

/-- The snippets for all choices of the fields and all options. -/
def Form.offers (form : Form) : Set String :=
  {text | ∃ fields options, fields.map (·.name) = form.fieldNames ∧
    compile form.name fields options = text}

end FormSnippet
