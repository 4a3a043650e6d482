import FormSnippet.Proofs.Builder.History
import FormSnippet.Proofs.Session.Scroll
import FormSnippet.Session.Display

/-!
# Bench — what a workbench holds

The builder of a workbench has one listener, which leaves the snippet in the memory.  Such a builder
is determined by its form name, its selection and its options (`Builder.keeping`), and every
operation of a key leads to another one of this kind.  So the preview is the snippet at all times.

- `Builder.keeping`         : the builder whose memory is its snippet
- `Workbench.Change`        : what a key or a rendering can make of a workbench
- `Workbench.Sound`         : a workbench that is open for a form
- `Workbench.Sound.change`  : it stays so
-/

namespace FormSnippet

/-! ## Builders that keep their snippet -/

namespace Builder

/-- The draft of a builder whose only listener keeps the snippet. -/
def Draft.keeping (formName : String) (fields : List Field) (options : Options) : Draft String :=
  { formName
    watch := fun _ _ _ memory => memory
    fields
    options
    listeners := [(0, fun code _ => code)]
    nextId := 1
    memory := compile formName fields options }

def keeping (formName : String) (fields : List Field) (options : Options) : Builder String :=
  (Draft.keeping formName fields options).builder

section Keeping

variable (formName : String) (fields : List Field) (options : Options)

@[simp] theorem keeping_formName : (keeping formName fields options).formName = formName := rfl

@[simp] theorem keeping_fields : (keeping formName fields options).fields = fields := rfl

@[simp] theorem keeping_options : (keeping formName fields options).options = options := rfl

@[simp] theorem keeping_code :
    (keeping formName fields options).code = compile formName fields options := rfl

@[simp] theorem keeping_memory :
    (keeping formName fields options).memory = compile formName fields options := rfl

/-- An operation is known by what it makes of the selection and of the options. -/
theorem take_keeping {step : Step String} (operates : step.operates = true) :
    (keeping formName fields options).take step =
      keeping formName (step.selected fields) (step.adjusted options) := by
  rw [keeping, keeping, Draft.take_builder]
  congr 1
  -- An operation that adjusts nothing tells nobody, and then the memory is up to date already.
  cases step with
  | subscribe | unsubscribe => cases operates
  | setField name patch =>
      simp only [Draft.take, Step.adjust?, Step.selected, Step.adjusted, Draft.keeping]
      cases Step.select? (.setField name patch : Step String) fields <;> rfl
  | omitField name value =>
      simp only [Draft.take, Step.adjust?, Step.selected, Step.adjusted, Draft.keeping]
      cases Step.select? (.omitField name value : Step String) fields <;> rfl
  | _ => rfl

/-- Opening a builder and listening to it, as the screen does. -/
theorem subscribe_open (form : Form) (options : Options) :
    (Builder.open form options "").subscribe (fun code _ => code) =
      (keeping form.name (form.fields.map fun field => Field.new field.name) options, 0) := by
  have told : ((Builder.open form options "").subscribe fun code _ => code).1 =
      (Builder.open form options "").take (.subscribe fun code _ => code) := rfl
  refine Prod.ext ?_ rfl
  rw [told, open_eq_watched, Draft.opened_builder, Draft.take_builder]
  rfl

end Keeping
end Builder

namespace Workbench

/-! ## What can become of a workbench -/

/-- A key selects a field, operates the builder or leaves a message; a rendering moves the window. -/
inductive Change (bench : Workbench) : Workbench → Prop
  | same : Change bench bench
  | moved (index : Nat)
      (place : Within bench.selected bench.fields.length → Within index bench.fields.length) :
      Change bench { bench with selected := index }
  | operated (step : Builder.Step String) (operates : step.operates = true) :
      Change bench { bench with model := bench.model.take step }
  | told (status : Status) : Change bench { bench with status := some status }
  | scrolled (rows : Nat) :
      Change bench
        { bench with scroll := scrollTo bench.scroll bench.selected bench.fields.length rows }

section Keys

variable (bench : Workbench)

theorem next_change : bench.Change bench.next := by
  rw [next]
  split
  · exact .same
  · next nonempty =>
      have room : 0 < bench.fields.length := by
        simpa [List.isEmpty_iff, List.length_pos_iff] using nonempty
      exact .moved _ fun _ => within_of_lt (Nat.mod_lt _ room)

theorem previous_change : bench.Change bench.previous := by
  rw [previous]
  split
  · exact .same
  · next nonempty =>
      have room : bench.fields.length ≠ 0 := by
        simpa [List.isEmpty_iff] using nonempty
      refine .moved _ ?_
      intro place
      rw [Within, if_neg room] at place
      apply within_of_lt
      split <;> omega

theorem toggleOmitted_change : bench.Change bench.toggleOmitted := by
  rw [toggleOmitted]
  split
  · next field _ => exact .operated (.omitField field.name !field.isOmitted) rfl
  · exact .same

theorem patchIncluded_change (now : Nat) (patch : Field → Patch) :
    bench.Change (bench.patchIncluded now patch) := by
  rw [patchIncluded]
  split
  · next field _ =>
      split
      · exact .told _
      · exact .operated (.setField field.name (patch field)) rfl
  · exact .same

theorem copy_change (world : World) : bench.Change (bench.copy world) :=
  .told _

/-- Whatever key is pressed, if it does not close the workbench. -/
theorem onKey_change {bench' : Workbench} {key : Key} {modifiers : Modifiers} {world : World}
    (pressed : bench.onKey key modifiers world = some bench') : bench.Change bench' := by
  unfold onKey at pressed
  split at pressed
  -- The key that closes the workbench leaves none.
  case h_1 => cases pressed
  all_goals obtain rfl := Option.some.inj pressed
  case h_2 | h_3 | h_4 => exact bench.next_change
  case h_5 | h_6 | h_7 => exact bench.previous_change
  case h_8 | h_9 => exact bench.toggleOmitted_change
  case h_10 | h_11 => exact bench.patchIncluded_change world.now _
  case h_12 => exact .operated (.setAllFrontmatter _) rfl
  case h_13 | h_14 => exact .operated (.updateOptions _) rfl
  case h_15 =>
    split
    · exact bench.copy_change world
    · exact .same
  case h_16 => exact bench.copy_change world
  case h_17 => exact .same

end Keys

/-! ## Sound workbenches -/

/-- The workbench is open for the form: its builder keeps the snippet of a selection of the declared
fields, and what it points to is on the list of fields. -/
structure Sound (bench : Workbench) (form : Form) : Prop where
  keeps : ∃ fields options, bench.model = .keeping form.name fields options ∧
    fields.map (·.name) = form.fieldNames
  selected : Within bench.selected form.fields.length
  scroll : Within bench.scroll form.fields.length

namespace Sound

variable {bench bench' : Workbench} {form : Form}

theorem names (sound : bench.Sound form) : bench.fields.map (·.name) = form.fieldNames := by
  rcases sound.keeps with ⟨fields, options, held, names⟩
  simpa [Workbench.fields, held] using names

theorem length (sound : bench.Sound form) : bench.fields.length = form.fields.length := by
  have lengths := congrArg List.length sound.names
  simpa [Form.fieldNames] using lengths

theorem «open» (index : Nat) (form : Form) (options : Options) :
    (Workbench.open index form options).Sound form := by
  have keeps : (Workbench.open index form options).model =
      .keeping form.name (form.fields.map fun field => Field.new field.name) options :=
    congrArg Prod.fst (Builder.subscribe_open form options)
  refine ⟨⟨_, _, keeps, ?_⟩, within_zero _, within_zero _⟩
  rw [List.map_map]
  rfl

/-- An operation on the builder changes neither its form nor the names of its fields. -/
theorem operated (sound : bench.Sound form) {step : Builder.Step String}
    (operates : step.operates = true) :
    Sound { bench with model := bench.model.take step } form := by
  rcases sound.keeps with ⟨fields, options, held, names⟩
  refine ⟨⟨step.selected fields, step.adjusted options, ?_, ?_⟩, sound.selected, sound.scroll⟩
  · rw [← Builder.take_keeping form.name fields options operates, ← held]
  · rw [Builder.Step.selected_names, names]

theorem change (sound : bench.Sound form) (change : bench.Change bench') : bench'.Sound form := by
  cases change with
  | same => exact sound
  | moved index place =>
      rw [sound.length] at place
      exact ⟨sound.keeps, place sound.selected, sound.scroll⟩
  | operated step operates => exact sound.operated operates
  | told status => exact ⟨sound.keeps, sound.selected, sound.scroll⟩
  | scrolled rows =>
      rw [sound.length]
      exact ⟨sound.keeps, sound.selected, scrollTo_within sound.selected⟩

end Sound

theorem Change.formIndex {bench bench' : Workbench} (change : bench.Change bench') :
    bench'.formIndex = bench.formIndex := by
  cases change <;> rfl

theorem arrange_change (bench : Workbench) (width height : Nat) :
    bench.Change (bench.arrange width height) :=
  .scrolled _

end Workbench
end FormSnippet
