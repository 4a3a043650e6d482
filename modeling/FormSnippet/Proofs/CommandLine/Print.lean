import FormSnippet.CommandLine.Print
import FormSnippet.Proofs.Session.Press
import FormSnippet.Proofs.Snippet.Meaning

/-!
# Print — print mode and the screen offer the same snippets

The settings of print mode are a history of a builder, so its fields go by the steps that concern
them: a field is omitted if its name is among those to be left out, and otherwise it is written into
the frontmatter if all fields are or if its name is among those for it.  By such settings every
selection comes about that a session can show, and no other.

- `Print.builder_eq_after`      : the settings as a history
- `Print.builder_fields`        : what becomes of each field
- `Print.printable_eq_offers`   : the snippets that are printed for a form
- `Print.printable_eq_previews` : they are the previews that keys lead to
-/

namespace FormSnippet

/-- Patching twice is patching once. -/
theorem Choice.merge_merge (choice : Choice) (patch : Patch) :
    (choice.merge patch).merge patch = choice.merge patch := by
  rcases patch with ⟨_ | _ | _, _ | _, _ | _⟩ <;> rcases choice with _ | _ <;> rfl

namespace CommandLine
namespace Print

open Builder

/-! ## The settings as a history -/

/-- The settings, one after the other. -/
def steps (arguments : Arguments) : List (Builder.Step Unit) :=
  [.setOptions arguments.options] ++
    (if arguments.allFrontmatter then [.setAllFrontmatter true] else []) ++
    arguments.frontmatter.map (.setField · (.frontmattering true)) ++
    arguments.leaveOut.map (.setField · (.omitting true))

theorem patchAll_eq_after (b : Builder Unit) (patch : Patch) (names : List String) :
    patchAll b patch names = b.after (names.map (.setField · patch)) := by
  rw [patchAll, after, List.foldl_map]
  rfl

theorem builder_eq_after (form : Form) (arguments : Arguments) :
    builder form arguments = (Builder.open form {} ()).after (steps arguments) := by
  rw [builder, patchAll_eq_after, patchAll_eq_after, steps]
  simp only [after, List.foldl_append]
  cases arguments.allFrontmatter <;> rfl

/-! ## What becomes of a field -/

/-- The choice for the fields of a name; leaving a field out counts for more than writing it. -/
def choice (arguments : Arguments) (name : String) : Choice :=
  if name ∈ arguments.leaveOut then .omitted
  else .included (arguments.allFrontmatter || name ∈ arguments.frontmatter) false

/-- Patching the fields of many names, as far as it concerns those of one name. -/
theorem foldl_patches (patch : Patch) (names : List String) (name : String) (before : Choice) :
    ((names.map (.setField · patch) : List (Builder.Step Unit)).filter
      (·.concerns name true)).foldl Builder.Step.change before =
        if name ∈ names then before.merge patch else before := by
  induction names generalizing before with
  | nil => simp
  | cons first rest ih =>
      rw [List.map_cons, List.filter_cons]
      by_cases same : first = name
      · subst same
        have concerned : (Builder.Step.setField first patch : Builder.Step Unit).concerns first
            true = true := by simp [Builder.Step.concerns]
        -- A name may occur again, but a patch does nothing the second time.
        rw [if_pos concerned, List.foldl_cons, ih, Builder.Step.change, Choice.merge_merge, ite_self,
          if_pos List.mem_cons_self]
      · have other : (Builder.Step.setField first patch : Builder.Step Unit).concerns name true =
            false := by simp [Builder.Step.concerns, same]
        rw [other, if_neg Bool.false_ne_true, ih before]
        simp [Ne.symm same]

theorem foldl_steps (arguments : Arguments) (name : String) :
    ((steps arguments).filter (·.concerns name true)).foldl Builder.Step.change .fresh =
      choice arguments name := by
  have first : ([.setOptions arguments.options] : List (Builder.Step Unit)).filter
      (·.concerns name true) = [] := rfl
  have marked : ((if arguments.allFrontmatter then [.setAllFrontmatter true] else [] :
      List (Builder.Step Unit)).filter (·.concerns name true)).foldl Builder.Step.change .fresh =
        .included arguments.allFrontmatter false := by
    cases arguments.allFrontmatter <;> rfl
  rw [steps, List.filter_append, List.filter_append, List.filter_append, List.foldl_append,
    List.foldl_append, first, List.nil_append, marked, foldl_patches, foldl_patches, choice]
  by_cases out : name ∈ arguments.leaveOut
  · rw [if_pos out, if_pos out]
    rfl
  · rw [if_neg out, if_neg out]
    by_cases written : name ∈ arguments.frontmatter
    · simp [written, Choice.merge, Patch.frontmattering, Choice.isOmitted, Choice.onBody]
    · simp [written]

section Printed

variable (form : Form) (arguments : Arguments)

theorem builder_draft : builder form arguments =
    ((Draft.opened (fun _ _ _ memory => memory) form {} ()).after (steps arguments)).builder := by
  rw [builder_eq_after, open_eq_watched, watched_after]

/-- In a form that declares no name twice, every field has the choice for its name. -/
theorem builder_fields (distinct : form.fieldNames.Nodup) :
    (builder form arguments).fields =
      form.fieldNames.map fun name => ⟨name, choice arguments name⟩ := by
  refine List.ext_getElem? ?_
  intro i
  have opened : (Draft.opened (fun _ _ _ memory => memory) form {} ()).fields =
      form.fieldNames.map Field.new := by
    rw [Form.fieldNames, List.map_map]
    rfl
  rw [builder_draft, Draft.builder_fields, Draft.after_fields, Builder.Step.foldl_selected_getElem?,
    Draft.opened_names, List.getElem?_map, opened, List.getElem?_map, Option.map_map]
  rcases Nat.lt_or_ge i form.fieldNames.length with declared | beyond
  · have first : form.fieldNames[i] ∉ form.fieldNames.take i := by
      intro earlier
      rcases List.mem_take_iff_getElem.1 earlier with ⟨j, before, same⟩
      have again : j = i := distinct.getElem_inj_iff.1 same
      omega
    rw [List.getElem?_eq_getElem declared, Option.map_some, Option.map_some, ← foldl_steps]
    simp [Field.new, first]
  · rw [List.getElem?_eq_none beyond]
    rfl

theorem builder_options : (builder form arguments).options = arguments.options := by
  have patches (patch : Patch) (names : List String) :
      (names.map (.setField · patch) : List (Builder.Step Unit)).filter (·.onOptions) = [] := by
    rw [List.filter_map, List.map_eq_nil_iff, List.filter_eq_nil_iff]
    exact fun _ _ => Bool.false_ne_true
  have only : (steps arguments).filter (·.onOptions) = [.setOptions arguments.options] := by
    rw [steps, List.filter_append, List.filter_append, List.filter_append, patches, patches]
    cases arguments.allFrontmatter <;> rfl
  rw [builder_draft, Draft.builder_options, Draft.after_options, only]
  rfl

theorem builder_code : (builder form arguments).code =
    compile form.name (builder form arguments).fields (builder form arguments).options := by
  have kept : ((Draft.opened (fun _ _ _ memory => memory) form {} ()).after
      (steps arguments)).formName = form.name :=
    Draft.after_kept (fun d step => (d.take_origin step).1) _ _
  rw [builder_draft, Draft.builder_code, Draft.code, kept]
  rfl

end Printed

/-! ## What is printed -/

/-- The snippets that print mode prints for a name. -/
def printable (forms : List Form) (name : String) : Set String :=
  {text | ∃ arguments printed, run forms name arguments = .ok printed ∧ printed.code = text}

/-- A form that is the first of its name is the one that is printed. -/
theorem form?_eq_some {forms : List Form} {index : Nat} {form : Form}
    (declared : forms[index]? = some form)
    (first : ∀ j < index, ∀ other, forms[j]? = some other → other.name ≠ form.name) :
    form? forms form.name = some form := by
  rw [form?, List.find?_eq_some_iff_getElem]
  rcases List.getElem?_eq_some_iff.1 declared with ⟨listed, here⟩
  refine ⟨by simp, index, listed, here, ?_⟩
  intro j before
  have different := first j before _ (List.getElem?_eq_getElem (by omega))
  simpa using different

/-- The settings that bring about a selection: its omitted names are left out, and its flagged names
are written. -/
def settings (fields : List Field) (options : Options) : Arguments :=
  { leaveOut := Snippet.omittedNames fields
    frontmatter := (fields.filter (·.onFrontmatter)).map (·.name)
    noFences := !options.fences
    globalHandle := options.globalHandle }

theorem settings_options (fields : List Field) (options : Options) :
    (settings fields options).options = options := by
  rw [Arguments.options, settings, Bool.not_not]

/-- With these settings every field gets its choice, but for the flag for the body. -/
theorem choice_settings {fields : List Field} (distinct : (fields.map (·.name)).Nodup)
    (options : Options) :
    (fields.map (·.name)).map (fun name => ⟨name, choice (settings fields options) name⟩) =
      fields.map Field.bare := by
  rw [List.map_map]
  refine List.map_congr_left ?_
  intro field mem
  have out : field.name ∈ (settings fields options).leaveOut ↔ field.isOmitted = true :=
    name_mem_filter distinct mem _
  have written : field.name ∈ (settings fields options).frontmatter ↔ field.onFrontmatter = true :=
    name_mem_filter distinct mem _
  have chosen : choice (settings fields options) field.name = field.choice.bare := by
    simp only [choice, out, written]
    rcases field with ⟨name, _ | _⟩
    · rw [if_neg (show ¬ Field.isOmitted ⟨name, .included _ _⟩ = true from Bool.false_ne_true)]
      exact congrArg (Choice.included · false) (Bool.decide_eq_true)
    · rfl
  rw [Function.comp_apply, chosen]
  rfl

section First

variable {forms : List Form} {index : Nat} {form : Form} (declared : forms[index]? = some form)
  (first : ∀ j < index, ∀ other, forms[j]? = some other → other.name ≠ form.name)
  (distinct : form.fieldNames.Nodup)

include declared first distinct

/-- Print mode offers every selection of a form that is the first of its name. -/
theorem printable_eq_offers : printable forms form.name = form.offers := by
  have found := form?_eq_some declared first
  ext text
  constructor
  · rintro ⟨arguments, printed, printed', rfl⟩
    rw [run, found] at printed'
    cases printed'
    refine ⟨_, _, ?_, (builder_code form arguments).symm⟩
    rw [builder_fields form arguments distinct, List.map_map]
    exact List.map_id' _
  · rintro ⟨fields, options, names, rfl⟩
    have distinct' : (fields.map (·.name)).Nodup := names ▸ distinct
    refine ⟨settings fields options, _, by rw [run, found], ?_⟩
    dsimp only
    rw [builder_code, builder_fields _ _ distinct, builder_options, settings_options, ← names,
      choice_settings distinct', compile_map_bare]

end First

/-- Print mode and the screen offer the same snippets.  Of a list of forms that has been loaded, a
form that is the first of its name can be opened; and wherever it is open, in whatever run, the
previews that keys lead to from there are the snippets that print mode prints for it. -/
theorem printable_eq_previews (source : Source) (defaults : Options) (world : World)
    (forms : List Form) (loaded : (source.load world.disk).result = .ok forms) (index : Nat)
    (form : Form) (declared : forms[index]? = some form)
    (first : ∀ j < index, ∀ other, forms[j]? = some other → other.name ≠ form.name) :
    (∃ visit, ((Running.start source defaults world).run visit).Shows forms index) ∧
    ∀ visit, ((Running.start source defaults world).run visit).Shows forms index →
      ((Running.start source defaults world).run visit).previews = printable forms form.name := by
  have distinct : form.fieldNames.Nodup :=
    (Source.load_ok loaded).2 form (List.mem_of_getElem? declared)
  refine ⟨⟨Running.visit index, Running.visit_opens loaded defaults declared⟩, ?_⟩
  intro visit shows
  have sound := Running.run_sound source defaults world visit
  rw [Running.previews_eq_offers sound shows declared, printable_eq_offers declared first distinct]

/-- The forms of the shelf. -/
def shelved : List Form :=
  [⟨"A", none, []⟩, ⟨"B", none, [⟨"x", none, none⟩]⟩]

theorem shelved_loaded :
    ((Source.explicit ⟨"forms.json"⟩).load Running.shelf.disk).result = .ok shelved := by
  decide +kernel

/-- The second form is opened, and its only field is omitted. -/
def shelvedVisit : List Step :=
  [.render 20 9, .key .down {}, .key .enter {}, .key (.char 'x') {}]

theorem shelved_shown : (Running.atShelf.run shelvedVisit).Shows shelved 1 := by
  unfold Running.Shows
  decide +kernel

theorem printable_eq_previews_shelved :
    (Running.atShelf.run shelvedVisit).Shows shelved 1 ∧
      (Running.atShelf.run shelvedVisit).previews = printable shelved "B" := by
  have first : ∀ j < 1, ∀ other, shelved[j]? = some other → other.name ≠ "B" := by
    intro j before other here
    obtain rfl : j = 0 := by omega
    cases here
    decide
  have law := printable_eq_previews (.explicit ⟨"forms.json"⟩) {} Running.shelf shelved
    shelved_loaded 1 ⟨"B", none, [⟨"x", none, none⟩]⟩ rfl first
  exact ⟨shelved_shown, law.2 shelvedVisit shelved_shown⟩

end Print
end CommandLine
end FormSnippet
