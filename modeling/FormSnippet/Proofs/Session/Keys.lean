import FormSnippet.Proofs.Session.Press
import FormSnippet.Proofs.Session.Shown

/-!
# Keys — what each key touches

A key points to the selected field by its place on the list, and the builder finds the field by its
name.  Since the names are different, both mean the same field: a key that is about one field leaves
all others as they are, and every other key is about one thing as well.

- `Workbench.holding`           : the workbench with another selection and other options
- `Workbench.Touches`           : what each key makes of a workbench
- `Workbench.Sound.touches`     : the keys do so where a form is open
- `Running.key_touches`         : the law for runs
-/

namespace FormSnippet

/-! ## One field -/

namespace Field

/-- Omitted, or brought back with both flags off. -/
def turned (field : Field) : Field :=
  match field.choice with
  | .included _ _ => ⟨field.name, .omitted⟩
  | .omitted => ⟨field.name, .included false false⟩

theorem patched_omitting : ∀ field : Field,
    field.patched (.omitting !field.isOmitted) = field.turned := by
  intro field
  rcases field with ⟨name, _ | _⟩ <;> rfl

/-- With that flag for the frontmatter, if the field is included. -/
def flagged (value : Bool) (field : Field) : Field :=
  match field.choice with
  | .included _ body => ⟨field.name, .included value body⟩
  | .omitted => field

theorem setFrontmatter_eq_flagged : ∀ value : Bool, Field.setFrontmatter value = flagged value := by
  intro value
  funext field
  rcases field with ⟨name, _ | _⟩ <;> rfl

end Field

namespace Workbench

/-- All included fields are written into the frontmatter, and there is one. -/
theorem allOnFrontmatter_iff : ∀ fields : List Field, allOnFrontmatter fields = true ↔
    (∃ field ∈ fields, field.isOmitted = false) ∧
      ∀ field ∈ fields, field.isOmitted = false → field.onFrontmatter = true := by
  intro fields
  have some_ : (!(fields.filter (!·.isOmitted)).isEmpty) = true ↔
      ∃ field ∈ fields, field.isOmitted = false := by
    simp
  have every : (fields.filter (!·.isOmitted)).all (·.onFrontmatter) = true ↔
      ∀ field ∈ fields, field.isOmitted = false → field.onFrontmatter = true := by
    simp only [List.all_eq_true, List.mem_filter, Bool.not_eq_true', and_imp]
  rw [allOnFrontmatter, Bool.and_eq_true, some_, every]

/-! ## The parts of a workbench -/

/-- The workbench with another selection and other options, and the snippet for these. -/
def holding (bench : Workbench) (fields : List Field) (options : Options) : Workbench :=
  { bench with model := .keeping bench.model.formName fields options }

/-- What a key that leaves the workbench open makes of it.  Each clause gives the whole workbench
after the key, so it says what stays as well. -/
structure Touches (key : Key) (modifiers : Modifiers) (world : World) (bench bench' : Workbench) :
    Prop where
  /-- The selected field is turned over. -/
  omission : key = .char ' ' ∨ key = .char 'x' →
    bench' = bench.holding (bench.fields.modify bench.selected Field.turned) bench.model.options
  /-- The one flag of the selected field is turned over. -/
  frontmatter : key = .char 'f' → ∀ name frontmatter body,
    bench.selectedField? = some ⟨name, .included frontmatter body⟩ →
      bench' = bench.holding
        (bench.fields.set bench.selected ⟨name, .included (!frontmatter) body⟩) bench.model.options
  body : key = .char 'b' → ∀ name frontmatter body,
    bench.selectedField? = some ⟨name, .included frontmatter body⟩ →
      bench' = bench.holding
        (bench.fields.set bench.selected ⟨name, .included frontmatter (!body)⟩) bench.model.options
  /-- There is no flag to turn over. -/
  refused : key = .char 'f' ∨ key = .char 'b' → ∀ name,
    bench.selectedField? = some ⟨name, .omitted⟩ →
      bench' = { bench with status := some ⟨"Field is omitted", world.now⟩ }
  fieldless : key = .char 'f' ∨ key = .char 'b' → bench.selectedField? = none → bench' = bench
  /-- All included fields get the flag, unless all had it, in which case none keeps it. -/
  all : key = .char 'a' → ∃ value : Bool,
    (value = false ↔ (∃ field ∈ bench.fields, field.isOmitted = false) ∧
      ∀ field ∈ bench.fields, field.isOmitted = false → field.onFrontmatter = true) ∧
    bench' = bench.holding (bench.fields.map (Field.flagged value)) bench.model.options
  fences : key = .char 't' → bench' = bench.holding bench.fields
    { bench.model.options with fences := !bench.model.options.fences }
  handle : key = .char 'g' → bench' = bench.holding bench.fields
    { bench.model.options with globalHandle := !bench.model.options.globalHandle }
  down : key ∈ [.down, .tab, .char 'j'] → bench.fields ≠ [] →
    bench' = { bench with selected := (bench.selected + 1) % bench.fields.length }
  up : key ∈ [.up, .backTab, .char 'k'] → bench.fields ≠ [] →
    bench' = { bench with
      selected := (bench.selected + bench.fields.length - 1) % bench.fields.length }
  unmoved : key ∈ [.down, .tab, .char 'j', .up, .backTab, .char 'k'] → bench.fields = [] →
    bench' = bench
  copied : key = .char 'y' ∨ key = .char 'c' ∧ modifiers.control = true →
    bench' = { bench with status := some ⟨copyMessage world.clipboardFailure, world.now⟩ }
  /-- Every other key. -/
  other : key ∉ [.char ' ', .char 'x', .char 'f', .char 'b', .char 'a', .char 't', .char 'g',
      .down, .tab, .char 'j', .up, .backTab, .char 'k', .char 'y'] →
    ¬ (key = .char 'c' ∧ modifiers.control = true) → bench' = bench

namespace Sound

variable {bench : Workbench} {form : Form} (sound : bench.Sound form)

include sound

/-- The builder is known by what it holds. -/
theorem model_eq : bench.model = .keeping form.name bench.fields bench.model.options := by
  rcases sound.keeps with ⟨fields, options, held, -⟩
  simp [Workbench.fields, held]

theorem holding_eq (fields : List Field) (options : Options) :
    bench.holding fields options = { bench with model := .keeping form.name fields options } := by
  have named : bench.model.formName = form.name := by
    rw [sound.model_eq]
    rfl
  rw [holding, named]

theorem holding_self : bench.holding bench.fields bench.model.options = bench := by
  rw [sound.holding_eq, ← sound.model_eq]

theorem operated_eq {step : Builder.Step String} (operates : step.operates = true) :
    { bench with model := bench.model.take step } =
      bench.holding (step.selected bench.fields) (step.adjusted bench.model.options) := by
  rw [sound.holding_eq, ← Builder.take_keeping _ _ _ operates, ← sound.model_eq]

/-- The options are adjusted, and the selection stays. -/
theorem updateOptions_eq (f : Options → Options) :
    { bench with model := bench.model.updateOptions f } =
      bench.holding bench.fields (f bench.model.options) := by
  have operates : (Builder.Step.updateOptions f : Builder.Step String).operates = true := rfl
  exact sound.operated_eq operates

theorem toggleAllFrontmatter_eq : bench.toggleAllFrontmatter =
    bench.holding (bench.fields.map (Field.flagged !allOnFrontmatter bench.fields))
      bench.model.options := by
  let step : Builder.Step String := .setAllFrontmatter !allOnFrontmatter bench.fields
  have operates : step.operates = true := rfl
  rw [← Field.setFrontmatter_eq_flagged]
  exact sound.operated_eq operates

/-! ## The selected field -/

section Selected

variable (distinct : form.fieldNames.Nodup)

include distinct

/-- A patch for the name of the selected field is for that field alone. -/
theorem setField_eq {field : Field} (here : bench.selectedField? = some field) (patch : Patch) :
    { bench with model := bench.model.setField field.name patch } =
      bench.holding (bench.fields.set bench.selected (field.patched patch))
        bench.model.options := by
  have names : (bench.fields.map (·.name)).Nodup := by
    rw [sound.names]
    exact distinct
  let step : Builder.Step String := .setField field.name patch
  have operates : step.operates = true := rfl
  have alone : step.selected bench.fields =
      bench.fields.set bench.selected (field.patched patch) :=
    Builder.Step.selected_setField names here patch
  rw [← alone]
  exact sound.operated_eq operates

theorem toggleOmitted_eq : bench.toggleOmitted =
    bench.holding (bench.fields.modify bench.selected Field.turned) bench.model.options := by
  rw [List.modify_eq_set_getElem?]
  cases here : bench.selectedField? with
  | none =>
      have beyond : bench.fields[bench.selected]? = none := here
      rw [toggleOmitted, here, beyond]
      exact sound.holding_self.symm
  | some field =>
      have there : bench.fields[bench.selected]? = some field := here
      rw [toggleOmitted, here, there]
      refine (sound.setField_eq distinct here (.omitting !field.isOmitted)).trans ?_
      rw [field.patched_omitting]
      rfl

/-- Only an included field is patched. -/
theorem patchIncluded_eq {field : Field} (here : bench.selectedField? = some field)
    (included : field.isOmitted = false) (now : Nat) (patch : Field → Patch) :
    bench.patchIncluded now patch =
      bench.holding (bench.fields.set bench.selected (field.patched (patch field)))
        bench.model.options := by
  rw [patchIncluded, here]
  dsimp only
  rw [included]
  exact sound.setField_eq distinct here (patch field)

end Selected

omit sound in
theorem patchIncluded_omitted {field : Field} (here : bench.selectedField? = some field)
    (omitted : field.isOmitted = true) (now : Nat) (patch : Field → Patch) :
    bench.patchIncluded now patch = { bench with status := some ⟨"Field is omitted", now⟩ } := by
  rw [patchIncluded, here]
  exact if_pos omitted

omit sound in
theorem patchIncluded_none (here : bench.selectedField? = none) (now : Nat)
    (patch : Field → Patch) : bench.patchIncluded now patch = bench := by
  rw [patchIncluded, here]

/-! ## The place on the list -/

theorem previous_eq (nonempty : bench.fields ≠ []) :
    bench.previous = { bench with
      selected := (bench.selected + bench.fields.length - 1) % bench.fields.length } := by
  have room : 0 < bench.fields.length := List.length_pos_iff.2 nonempty
  have place : bench.selected < bench.fields.length := by
    have within := sound.selected
    rw [← sound.length, Within, if_neg (by omega)] at within
    exact within
  have before : (if bench.selected = 0 then bench.fields.length - 1 else bench.selected - 1) =
      (bench.selected + bench.fields.length - 1) % bench.fields.length := by
    split
    · next first =>
        rw [first, Nat.zero_add, Nat.mod_eq_of_lt (by omega)]
    · next later =>
        -- Once around the list, and one place back.
        have around : bench.selected + bench.fields.length - 1 =
            (bench.selected - 1) + bench.fields.length := by
          omega
        rw [around, Nat.add_mod_right, Nat.mod_eq_of_lt (by omega)]
  rw [previous, if_neg (by simpa using nonempty), before]

/-! ## All keys -/

omit sound in
/-- A key that is not listed changes nothing. -/
theorem onKey_other {key : Key} {modifiers : Modifiers} {world : World} {bench' : Workbench}
    (unlisted : key ∉ [.char ' ', .char 'x', .char 'f', .char 'b', .char 'a', .char 't', .char 'g',
      .down, .tab, .char 'j', .up, .backTab, .char 'k', .char 'y'])
    (plain : ¬ (key = .char 'c' ∧ modifiers.control = true))
    (pressed : bench.onKey key modifiers world = some bench') : bench' = bench := by
  unfold onKey at pressed
  split at pressed
  case h_1 => cases pressed
  case h_15 =>
    have free : ¬ modifiers.control = true := by
      intro control
      exact plain ⟨rfl, control⟩
    rw [if_neg free] at pressed
    exact (Option.some.inj pressed).symm
  case h_17 => exact (Option.some.inj pressed).symm
  all_goals exact absurd (by decide) unlisted

theorem touches (distinct : form.fieldNames.Nodup) {key : Key} {modifiers : Modifiers}
    {world : World} {bench' : Workbench}
    (pressed : bench.onKey key modifiers world = some bench') :
    bench.Touches key modifiers world bench' := by
  constructor
  case omission =>
    rintro (rfl | rfl) <;> obtain rfl := Option.some.inj pressed
    all_goals exact sound.toggleOmitted_eq distinct
  case frontmatter =>
    rintro rfl name frontmatter body here
    obtain rfl := Option.some.inj pressed
    exact sound.patchIncluded_eq distinct here rfl world.now _
  case body =>
    rintro rfl name frontmatter body here
    obtain rfl := Option.some.inj pressed
    exact sound.patchIncluded_eq distinct here rfl world.now _
  case refused =>
    rintro (rfl | rfl) name here <;> obtain rfl := Option.some.inj pressed
    all_goals exact patchIncluded_omitted here rfl world.now _
  case fieldless =>
    rintro (rfl | rfl) here <;> obtain rfl := Option.some.inj pressed
    all_goals exact patchIncluded_none here world.now _
  case all =>
    rintro rfl
    obtain rfl := Option.some.inj pressed
    refine ⟨!allOnFrontmatter bench.fields, ?_, sound.toggleAllFrontmatter_eq⟩
    rw [← allOnFrontmatter_iff, Bool.not_eq_false']
  case fences =>
    rintro rfl
    obtain rfl := Option.some.inj pressed
    exact sound.updateOptions_eq .toggleFences
  case handle =>
    rintro rfl
    obtain rfl := Option.some.inj pressed
    exact sound.updateOptions_eq .toggleHandle
  case down =>
    intro bound nonempty
    have moved : bench' = bench.next := by
      simp only [List.mem_cons, List.not_mem_nil, or_false] at bound
      rcases bound with rfl | rfl | rfl <;> exact (Option.some.inj pressed).symm
    rw [moved, next, if_neg (by simpa using nonempty)]
  case up =>
    intro bound nonempty
    have moved : bench' = bench.previous := by
      simp only [List.mem_cons, List.not_mem_nil, or_false] at bound
      rcases bound with rfl | rfl | rfl <;> exact (Option.some.inj pressed).symm
    rw [moved, sound.previous_eq nonempty]
  case unmoved =>
    intro bound empty
    have none : bench.fields.isEmpty = true := List.isEmpty_iff.2 empty
    have moved : bench' = bench.next ∨ bench' = bench.previous := by
      simp only [List.mem_cons, List.not_mem_nil, or_false] at bound
      rcases bound with rfl | rfl | rfl | rfl | rfl | rfl
      case inl | inr.inl | inr.inr.inl => exact .inl (Option.some.inj pressed).symm
      all_goals exact .inr (Option.some.inj pressed).symm
    rcases moved with rfl | rfl
    · exact if_pos none
    · exact if_pos none
  case copied =>
    rintro (rfl | ⟨rfl, control⟩)
    · exact (Option.some.inj pressed).symm
    · have copied : bench.onKey (.char 'c') modifiers world = some (bench.copy world) :=
        congrArg some (if_pos control)
      exact Option.some.inj (pressed.symm.trans copied)
  case other =>
    intro unlisted plain
    exact onKey_other unlisted plain pressed

end Sound
end Workbench

/-! ## Runs -/

namespace Running

/-- In every run, a key that leaves the builder open makes of it what is said of that key.  The rest
of the session and the world stay as they are, the preview is the snippet of what the builder holds
then, and the fields are the same ones in the same order. -/
theorem key_touches (source : Source) (defaults : Options) (world : World) (steps : List Step)
    (bench : Workbench) (key : Key) (modifiers : Modifiers) :
    let r := (start source defaults world).run steps
    r.session.workbench = some bench → key ≠ .escape →
      ∃ form bench', r.session.forms[bench.formIndex]? = some form ∧
        bench.holding bench.fields bench.model.options = bench ∧
        r.step (.key key modifiers) =
          { r with session := { r.session with workbench := some bench' } } ∧
        bench.Touches key modifiers r.world bench' ∧
        bench'.preview = compile form.name bench'.fields bench'.model.options ∧
        bench'.fields.map (·.name) = bench.fields.map (·.name) := by
  intro r here other
  have sound : r.session.Sound := run_sound source defaults world steps
  rcases sound.bench bench here with ⟨-, form, found, fit⟩
  have distinct : form.fieldNames.Nodup := sound.distinct form (List.mem_of_getElem? found)
  have remains : bench.onKey key modifiers r.world ≠ none := by
    intro closed
    exact other (Workbench.onKey_eq_none.1 closed)
  rcases Option.ne_none_iff_exists'.1 remains with ⟨bench', pressed⟩
  have fit' : bench'.Sound form := fit.change (bench.onKey_change pressed)
  refine ⟨form, bench', found, fit.holding_self, step_key (sound.atBench here) pressed,
    fit.touches distinct pressed, ?preview, ?names⟩
  case preview =>
    rw [Workbench.preview, fit'.model_eq]
    rfl
  case names =>
    rw [fit'.names, fit.names]

/-- The field that the busy keys omit is brought back. -/
theorem key_touches_busy :
    ∃ (form : Form) (bench bench' : Workbench),
      (atShelf.run busyKeys).session.workbench = some bench ∧
      Key.char ' ' ≠ Key.escape ∧
      (atShelf.run busyKeys).step (.key (.char ' ') {}) =
        ⟨{ (atShelf.run busyKeys).session with workbench := some bench' },
          (atShelf.run busyKeys).world⟩ ∧
      bench' = bench.holding (bench.fields.modify bench.selected Field.turned)
        bench.model.options ∧
      bench'.preview = compile form.name bench'.fields bench'.model.options ∧
      bench'.fields.map (·.name) = bench.fields.map (·.name) := by
  rcases Option.isSome_iff_exists.1 busy_reaches with ⟨bench, here⟩
  have open' : Key.char ' ' ≠ Key.escape := by
    decide
  have law := key_touches (.explicit ⟨"forms.json"⟩) {} shelf busyKeys bench (.char ' ') {}
  rcases law here open' with ⟨form, bench', -, -, reached, touches, current, names⟩
  exact ⟨form, bench, bench', here, open', reached, touches.omission (.inl rfl), current, names⟩

end Running
end FormSnippet
