import Mathlib.Data.List.Nodup
import FormSnippet.Proofs.Snippet.Reading

/-!
# Meaning — what a snippet does with the form that it opens

The call opens a form and yields a result, which holds the form's fields but for those that the call
omits.  The statement after it writes some fields of that result into the frontmatter.  Whatever the
selection, the fields of the result are the included ones, and those that are written are the
included ones with the flag.

- `Snippet.result`       : the fields that the result holds
- `Frontmatter.written`  : the fields of a result that the statement writes
- `compile_meaning`      : read back from its text, a snippet means the selection
-/

namespace FormSnippet

/-! ## Results and what is written of them -/

/-- The fields of the result, of a form with the declared ones. -/
def Snippet.result (snippet : Snippet) (declared : List String) : List String :=
  declared.filter (· ∉ snippet.omitted)

/-- The fields of a result that a statement writes, in the order of the result. -/
def Frontmatter.written (result : List String) : Frontmatter → List String
  | .nothing => []
  | .everything => result
  | .pick names => result.filter (· ∈ names)

/-- The names of the included fields that are flagged for the frontmatter. -/
def flaggedNames (fields : List Field) : List String :=
  (fields.filter fun field => !field.isOmitted && field.onFrontmatter).map (·.name)

/-! ## Names that tell fields apart -/

section Names

variable {fields : List Field} (distinct : (fields.map (·.name)).Nodup)

include distinct

theorem name_mem_filter {field : Field} (here : field ∈ fields) (p : Field → Bool) :
    field.name ∈ (fields.filter p).map (·.name) ↔ p field := by
  constructor
  · intro mem
    rcases List.mem_map.1 mem with ⟨other, kept, same⟩
    rcases List.mem_filter.1 kept with ⟨there, holds⟩
    have equal : other = field := List.inj_on_of_nodup_map distinct there here same
    rwa [← equal]
  · intro holds
    exact List.mem_map_of_mem (List.mem_filter.2 ⟨here, holds⟩)

/-- Picking the names of some fields picks just those fields. -/
theorem names_pick (p : Field → Bool) :
    (fields.map (·.name)).filter (· ∈ (fields.filter p).map (·.name)) =
      (fields.filter p).map (·.name) := by
  rw [List.filter_map]
  refine congrArg _ (List.filter_congr fun field here => ?_)
  simp only [Function.comp, name_mem_filter distinct here, Bool.decide_eq_true]

/-- Leaving out the names of some fields leaves the others. -/
theorem names_omit (p : Field → Bool) :
    (fields.map (·.name)).filter (· ∉ (fields.filter p).map (·.name)) =
      (fields.filter (!p ·)).map (·.name) := by
  rw [List.filter_map]
  refine congrArg _ (List.filter_congr fun field here => ?_)
  simp only [Function.comp, name_mem_filter distinct here]
  cases p field <;> rfl

end Names

/-! ## Selections -/

section Selections

variable {fields : List Field} (distinct : (fields.map (·.name)).Nodup)

include distinct

theorem result_ofFields (formName : String) (options : Options) :
    (Snippet.ofFields formName fields options).result (fields.map (·.name)) =
      (Snippet.includedFields fields).map (·.name) :=
  names_omit distinct (·.isOmitted)

omit distinct in
theorem flaggedNames_eq (fields : List Field) : flaggedNames fields =
    ((Snippet.includedFields fields).filter (·.onFrontmatter)).map (·.name) := by
  rw [flaggedNames, Snippet.includedFields, List.filter_filter]
  refine congrArg _ (List.filter_congr fun field _ => Bool.and_comm _ _)

/-- An explicit list of the flagged fields writes just these. -/
theorem written_pick : (Frontmatter.pick (flaggedNames fields)).written
    ((Snippet.includedFields fields).map (·.name)) = flaggedNames fields := by
  have distinct' : ((Snippet.includedFields fields).map (·.name)).Nodup :=
    distinct.sublist (List.filter_sublist.map _)
  rw [flaggedNames_eq]
  exact names_pick distinct' (·.onFrontmatter)

/-- So does whichever statement stands in the snippet. -/
theorem written_frontmatterOf : (Snippet.frontmatterOf fields).written
    ((Snippet.includedFields fields).map (·.name)) = flaggedNames fields := by
  simp only [Snippet.frontmatterOf]
  split_ifs with none all
  · have empty : (Snippet.includedFields fields).filter (·.onFrontmatter) = [] := by
      simpa using none
    rw [flaggedNames_eq, empty]
    rfl
  · -- As many fields are flagged as there are included ones, so these are the same.
    have same : (Snippet.includedFields fields).filter (·.onFrontmatter) =
        Snippet.includedFields fields :=
      List.filter_sublist.eq_of_length all
    rw [flaggedNames_eq, same]
    rfl
  · rw [← flaggedNames_eq]
    exact written_pick distinct

end Selections

/-- For fields with names of their own, the text reads back as a snippet for the form.  Its result
holds the included fields, and those that it writes are the included ones with the flag, in declared
order.  No omitted field is among them, and an explicit list of the flagged fields in the place of
the statement would write the same. -/
theorem compile_meaning (formName : String) (fields : List Field) (options : Options)
    (distinct : (fields.map (·.name)).Nodup) :
    ∃ snippet, Snippet.read? (compile formName fields options).toList = some snippet ∧
      snippet.formName = formName ∧
      let result := snippet.result (fields.map (·.name))
      let written := snippet.frontmatter.written result
      result = (fields.filter fun field => !field.isOmitted).map (·.name) ∧
        written = flaggedNames fields ∧
        (∀ field ∈ fields, field.isOmitted → field.name ∉ written) ∧
        (Frontmatter.pick (flaggedNames fields)).written result = written := by
  refine ⟨Snippet.ofFields formName fields options, ?_, rfl, ?_⟩
  · rw [compile_toList, Snippet.read?_chars]
  · intro result written
    have holds : result = (Snippet.includedFields fields).map (·.name) :=
      result_ofFields distinct formName options
    have writes : written = flaggedNames fields := by
      have statement := written_frontmatterOf distinct
      rwa [← holds] at statement
    refine ⟨holds, writes, ?_, ?_⟩
    · intro field here omitted mem
      rw [writes, flaggedNames, name_mem_filter distinct here] at mem
      simp [omitted] at mem
    · rw [writes, holds]
      exact written_pick distinct

/-- Fields with names that look like parts of the snippet. -/
def awkwardFields : List Field :=
  [⟨"say \"hi\"", .included true false⟩, ⟨"] \t\x7d);\n-%>", .included false true⟩,
    ⟨"\\\"", .omitted⟩]

theorem compile_meaning_awkward :
    (awkwardFields.map (·.name)).Nodup ∧
      ∃ snippet, Snippet.read? (compile "\");" awkwardFields {}).toList = some snippet ∧
        snippet.formName = "\");" ∧
        snippet.result (awkwardFields.map (·.name)) = ["say \"hi\"", "] \t\x7d);\n-%>"] ∧
        snippet.frontmatter.written (snippet.result (awkwardFields.map (·.name))) =
          ["say \"hi\""] := by
  have distinct : (awkwardFields.map (·.name)).Nodup := by
    decide
  rcases compile_meaning "\");" awkwardFields {} distinct with
    ⟨snippet, reads, name, holds, writes, -⟩
  exact ⟨distinct, snippet, reads, name, holds, writes⟩

end FormSnippet
