import FormSnippet.Proofs.Session.Sound
import FormSnippet.Proofs.Snippet.Offer

/-!
# Press — where keys lead from an open workbench

Keys lead from a workbench to every choice of its fields and to all options: first back to the first
field, then down the list, where each field is settled in passing.  They lead to nothing else, since
the workbench stays open for its form.

- `Workbench.Presses`           : keys one after the other
- `Workbench.Holds`             : what a workbench holds between two keys
- `Workbench.Holds.settle`      : the selected field gets any choice
- `Workbench.Holds.tour`        : all fields get theirs
- `Running.previews_eq_offers`  : the previews that keys lead to are those of all selections
-/

namespace FormSnippet

open Relation

/-! ## What patches make of a field -/

namespace Field

variable (field : Field)

theorem isOmitted_omitting (value : Bool) : (field.patched (.omitting value)).isOmitted = value := by
  cases value <;> rfl

theorem isOmitted_frontmattering (value : Bool) :
    (field.patched (.frontmattering value)).isOmitted = field.isOmitted := by
  rcases field with ⟨name, _ | _⟩ <;> rfl

theorem onFrontmatter_of_omitted (omitted : field.isOmitted = true) :
    field.onFrontmatter = false := by
  rcases field with ⟨name, _ | _⟩
  · cases omitted
  · rfl

theorem onFrontmatter_frontmattering (included : field.isOmitted = false) (value : Bool) :
    (field.patched (.frontmattering value)).onFrontmatter = value := by
  rcases field with ⟨name, _ | _⟩
  · rfl
  · cases included

/-- A field in the place of one of the same name. -/
theorem names_set {fields : List Field} {index : Nat} {field field' : Field}
    (here : fields[index]? = some field) (named : field'.name = field.name) :
    (fields.set index field').map (·.name) = fields.map (·.name) := by
  rcases List.getElem?_eq_some_iff.1 here with ⟨listed, rfl⟩
  rw [List.map_set, named, ← List.map_set, List.set_getElem_self listed]

end Field

namespace Workbench

/-! ## Keys that leave the workbench open -/

def Pressed (world : World) (bench bench' : Workbench) : Prop :=
  ∃ key modifiers, bench.onKey key modifiers world = some bench'

/-- Keys one after the other. -/
abbrev Presses (world : World) : Workbench → Workbench → Prop :=
  ReflTransGen (Pressed world)

theorem onKey_eq_none {bench : Workbench} {key : Key} {modifiers : Modifiers} {world : World} :
    bench.onKey key modifiers world = none ↔ key = .escape := by
  unfold onKey
  split <;> simp_all

theorem Sound.presses {world : World} {bench bench' : Workbench} {form : Form}
    (sound : bench.Sound form) (presses : Presses world bench bench') : bench'.Sound form := by
  induction presses with
  | refl => exact sound
  | tail _ pressed ih =>
      rcases pressed with ⟨key, modifiers, pressed⟩
      exact ih.change (onKey_change _ pressed)

/-! ## What a workbench holds -/

/-- The builder keeps the snippet of a selection, and a field of it is selected. -/
structure Holds (bench : Workbench) (formName : String) (fields : List Field) (options : Options)
    (index : Nat) : Prop where
  model : bench.model = .keeping formName fields options
  selected : bench.selected = index

namespace Holds

variable {world : World} {bench : Workbench} {formName : String} {fields : List Field}
  {options : Options} {index : Nat}

theorem fields_eq (holds : bench.Holds formName fields options index) : bench.fields = fields := by
  rw [Workbench.fields, holds.model, Builder.keeping_fields]

theorem selectedField? (holds : bench.Holds formName fields options index) :
    bench.selectedField? = fields[index]? := by
  rw [Workbench.selectedField?, holds.fields_eq, holds.selected]

/-- A key that operates the builder. -/
theorem operated (holds : bench.Holds formName fields options index) {step : Builder.Step String}
    (operates : step.operates = true) :
    Holds { bench with model := bench.model.take step } formName (step.selected fields)
      (step.adjusted options) index where
  model := by
    rw [holds.model]
    exact Builder.take_keeping formName fields options operates
  selected := holds.selected

/-! ## Moving -/

theorem next (holds : bench.Holds formName fields options index) (listed : index < fields.length) :
    Holds bench.next formName fields options ((index + 1) % fields.length) := by
  have nonempty : ¬ bench.fields.isEmpty = true := by
    rw [holds.fields_eq, List.isEmpty_iff, ← List.length_eq_zero_iff]
    omega
  rw [Workbench.next, if_neg nonempty, holds.fields_eq, holds.selected]
  exact ⟨holds.model, rfl⟩

theorem previous (holds : bench.Holds formName fields options (index + 1))
    (listed : index + 1 < fields.length) : Holds bench.previous formName fields options index := by
  have nonempty : ¬ bench.fields.isEmpty = true := by
    rw [holds.fields_eq, List.isEmpty_iff, ← List.length_eq_zero_iff]
    omega
  rw [Workbench.previous, if_neg nonempty, holds.selected]
  exact ⟨holds.model, rfl⟩

/-- Back to the first field. -/
theorem rewind (holds : bench.Holds formName fields options index) (world : World)
    (place : Within index fields.length) :
    ∃ bench', Presses world bench bench' ∧ bench'.Holds formName fields options 0 := by
  induction index generalizing bench with
  | zero => exact ⟨bench, .refl, holds⟩
  | succ index ih =>
      have nonempty : fields.length ≠ 0 := by
        intro empty
        rw [Within, if_pos empty] at place
        omega
      rw [Within, if_neg nonempty] at place
      rcases ih (holds.previous place) (within_of_lt (by omega)) with ⟨bench', presses, first⟩
      exact ⟨bench', .head ⟨.up, {}, rfl⟩ presses, first⟩

/-! ## Settling a field -/

section Settling

variable (holds : bench.Holds formName fields options index)
  (distinct : (fields.map (·.name)).Nodup) {field : Field} (here : fields[index]? = some field)

include holds distinct here

theorem toggleOmitted : bench.toggleOmitted.Holds formName
    (fields.set index (field.patched (.omitting !field.isOmitted))) options index := by
  let step : Builder.Step String := .omitField field.name !field.isOmitted
  have taken : Holds { bench with model := bench.model.take step } formName
      (step.selected fields) options index := holds.operated rfl
  -- Omitting is patching, for the selection.
  have patched : step.selected fields =
      fields.set index (field.patched (.omitting !field.isOmitted)) := by
    change (Builder.Step.setField field.name (.omitting !field.isOmitted) :
      Builder.Step String).selected fields = _
    exact Builder.Step.selected_setField distinct here _
  rw [patched] at taken
  rw [Workbench.toggleOmitted, holds.selectedField?, here]
  exact taken

theorem toggleFrontmatter (included : field.isOmitted = false) (now : Nat) :
    (bench.toggleFrontmatter now).Holds formName
      (fields.set index (field.patched (.frontmattering !field.onFrontmatter))) options index := by
  let step : Builder.Step String := .setField field.name (.frontmattering !field.onFrontmatter)
  have taken : Holds { bench with model := bench.model.take step } formName
      (step.selected fields) options index := holds.operated rfl
  rw [Builder.Step.selected_setField distinct here] at taken
  rw [Workbench.toggleFrontmatter, patchIncluded, holds.selectedField?, here]
  dsimp only
  rw [included]
  exact taken

omit distinct in
theorem stay : bench.Holds formName (fields.set index field) options index := by
  rcases List.getElem?_eq_some_iff.1 here with ⟨listed, rfl⟩
  rw [List.set_getElem_self listed]
  exact holds

/-- The selected field is omitted or comes back, as it is wanted. -/
theorem omission (world : World) (omitted : Bool) :
    ∃ bench' field', Presses world bench bench' ∧ field'.name = field.name ∧
      field'.isOmitted = omitted ∧
      bench'.Holds formName (fields.set index field') options index := by
  by_cases same : field.isOmitted = omitted
  · exact ⟨bench, field, .refl, rfl, same, holds.stay here⟩
  · obtain rfl := Bool.eq_not_of_ne (Ne.symm same)
    exact ⟨bench.toggleOmitted, field.patched (.omitting !field.isOmitted),
      .single ⟨.char 'x', {}, rfl⟩, rfl, field.isOmitted_omitting _,
      holds.toggleOmitted distinct here⟩

/-- An included field is written into the frontmatter or not, as it is wanted. -/
theorem flag (world : World) (included : field.isOmitted = false) (frontmatter : Bool) :
    ∃ bench' field', Presses world bench bench' ∧ field'.name = field.name ∧
      field'.isOmitted = false ∧ field'.onFrontmatter = frontmatter ∧
      bench'.Holds formName (fields.set index field') options index := by
  by_cases same : field.onFrontmatter = frontmatter
  · exact ⟨bench, field, .refl, rfl, included, same, holds.stay here⟩
  · obtain rfl := Bool.eq_not_of_ne (Ne.symm same)
    exact ⟨bench.toggleFrontmatter world.now,
      field.patched (.frontmattering !field.onFrontmatter), .single ⟨.char 'f', {}, rfl⟩, rfl,
      (field.isOmitted_frontmattering _).trans included,
      field.onFrontmatter_frontmattering included _,
      holds.toggleFrontmatter distinct here included world.now⟩

/-- The selected field gets any choice that shows in the snippet. -/
theorem settle (world : World) (target : Field) (named : target.name = field.name) :
    ∃ bench' field', Presses world bench bench' ∧ field'.bare = target.bare ∧
      bench'.Holds formName (fields.set index field') options index := by
  rcases holds.omission distinct here world target.isOmitted with
    ⟨bench₁, field₁, presses₁, named₁, omitted₁, holds₁⟩
  cases omitted : target.isOmitted with
  | true =>
      -- An omitted field has no flags.
      rw [omitted] at omitted₁
      have flags : field₁.onFrontmatter = target.onFrontmatter := by
        rw [field₁.onFrontmatter_of_omitted omitted₁, target.onFrontmatter_of_omitted omitted]
      exact ⟨bench₁, field₁, presses₁, Field.bare_eq_of_shown (named₁.trans named.symm)
        (omitted₁.trans omitted.symm) flags, holds₁⟩
  | false =>
      -- The key for the flag finds the field included.
      rw [omitted] at omitted₁
      have here₁ : (fields.set index field₁)[index]? = some field₁ :=
        List.getElem?_set_self (List.getElem?_eq_some_iff.1 here).1
      have distinct₁ : ((fields.set index field₁).map (·.name)).Nodup := by
        rw [Field.names_set here named₁]
        exact distinct
      rcases holds₁.flag distinct₁ here₁ world omitted₁ target.onFrontmatter with
        ⟨bench₂, field₂, presses₂, named₂, omitted₂, flag₂, holds₂⟩
      rw [List.set_set] at holds₂
      exact ⟨bench₂, field₂, presses₁.trans presses₂,
        Field.bare_eq_of_shown ((named₂.trans named₁).trans named.symm)
          (omitted₂.trans omitted.symm) flag₂, holds₂⟩

end Settling

/-! ## Settling all -/

/-- Going down the list, the keys settle the fields up to any place on it. -/
theorem tour (holds : bench.Holds formName fields options 0)
    (distinct : (fields.map (·.name)).Nodup) (world : World) (targets : List Field)
    (names : targets.map (·.name) = fields.map (·.name)) (count : Nat)
    (listed : count ≤ fields.length) :
    ∃ bench' fields', Presses world bench bench' ∧
      fields'.map (·.name) = fields.map (·.name) ∧
      (∀ i < count, fields'[i]?.map Field.bare = targets[i]?.map Field.bare) ∧
      bench'.Holds formName fields' options (count % fields.length) := by
  -- By induction on the fields that have been passed, all of which are settled.
  induction count with
  | zero => exact ⟨bench, fields, .refl, rfl, nofun, by rwa [Nat.zero_mod]⟩
  | succ count ih =>
      rcases ih (by omega) with ⟨bench₁, fields₁, presses₁, names₁, settled₁, holds₁⟩
      have lengths : fields₁.length = fields.length := by
        simpa using congrArg List.length names₁
      rw [Nat.mod_eq_of_lt (by omega)] at holds₁
      have here : fields₁[count]? = some fields₁[count] := List.getElem?_eq_getElem (by omega)
      have wanted : count < targets.length := by
        have := congrArg List.length names
        simp only [List.length_map] at this
        omega
      have named : targets[count].name = fields₁[count].name := by
        have same := congrArg (fun names : List String => names[count]?) (names.trans names₁.symm)
        simpa [List.getElem?_eq_getElem wanted, here] using same
      rcases holds₁.settle (names₁ ▸ distinct) here world targets[count] named with
        ⟨bench₂, field₂, presses₂, bare₂, holds₂⟩
      have names₂ : (fields₁.set count field₂).map (·.name) = fields.map (·.name) := by
        have same : field₂.name = fields₁[count].name := (congrArg Field.name bare₂).trans named
        rw [Field.names_set here same, names₁]
      have holds₃ := holds₂.next (by rw [List.length_set]; omega)
      rw [List.length_set, lengths] at holds₃
      refine ⟨bench₂.next, fields₁.set count field₂,
        (presses₁.trans presses₂).tail ⟨.down, {}, rfl⟩, names₂, ?_, holds₃⟩
      intro i passed
      rcases Nat.lt_succ_iff_lt_or_eq.1 passed with before | rfl
      · rw [List.getElem?_set_ne (by omega)]
        exact settled₁ i before
      · rw [List.getElem?_set_self (by omega), List.getElem?_eq_getElem wanted]
        exact congrArg some bare₂

theorem updateOptions (holds : bench.Holds formName fields options index) (f : Options → Options) :
    Holds { bench with model := bench.model.updateOptions f } formName fields (f options) index := by
  let step : Builder.Step String := .updateOptions f
  have taken : Holds { bench with model := bench.model.take step } formName
      (step.selected fields) (step.adjusted options) index := holds.operated rfl
  exact taken

/-- The two keys for the options bring about any. -/
theorem adjust (holds : bench.Holds formName fields options index) (world : World)
    (target : Options) :
    ∃ bench', Presses world bench bench' ∧ bench'.Holds formName fields target index := by
  have fences : ∃ bench₁, Presses world bench bench₁ ∧
      bench₁.Holds formName fields { options with fences := target.fences } index := by
    by_cases same : options.fences = target.fences
    · rw [← same]
      exact ⟨bench, .refl, holds⟩
    · rw [Bool.eq_not_of_ne (Ne.symm same)]
      exact ⟨_, .single ⟨.char 't', {}, rfl⟩, holds.updateOptions .toggleFences⟩
  rcases fences with ⟨bench₁, presses₁, holds₁⟩
  have handle : ∃ bench₂, Presses world bench₁ bench₂ ∧
      bench₂.Holds formName fields target index := by
    by_cases same : options.globalHandle = target.globalHandle
    · rw [same] at holds₁
      exact ⟨bench₁, .refl, holds₁⟩
    · have turned := holds₁.updateOptions .toggleHandle
      have reached : Options.toggleHandle { options with fences := target.fences } = target := by
        rw [Options.toggleHandle, ← Bool.eq_not_of_ne (Ne.symm same)]
      rw [reached] at turned
      exact ⟨_, .single ⟨.char 'g', {}, rfl⟩, turned⟩
  rcases handle with ⟨bench₂, presses₂, holds₂⟩
  exact ⟨bench₂, presses₁.trans presses₂, holds₂⟩

end Holds

/-! ## What the keys lead to -/

namespace Sound

variable {bench : Workbench} {form : Form} (sound : bench.Sound form) (world : World)

include sound

/-- From any place of an open workbench, keys lead to every choice of its fields that shows, and to
all options. -/
theorem reach (distinct : form.fieldNames.Nodup) (targets : List Field)
    (names : targets.map (·.name) = form.fieldNames) (options : Options) :
    ∃ bench', Presses world bench bench' ∧
      bench'.preview = compile form.name targets options := by
  rcases sound.keeps with ⟨fields, current, held, declared⟩
  have lengths : fields.length = form.fields.length := by
    simpa [Form.fieldNames] using congrArg List.length declared
  have place : Within bench.selected fields.length := by
    rw [lengths]
    exact sound.selected
  have holds : bench.Holds form.name fields current bench.selected := ⟨held, rfl⟩
  rcases holds.rewind world place with ⟨bench₁, presses₁, holds₁⟩
  rcases holds₁.adjust world options with ⟨bench₂, presses₂, holds₂⟩
  rcases holds₂.tour (declared ▸ distinct) world targets (names.trans declared.symm)
    fields.length le_rfl with ⟨bench₃, fields₃, presses₃, names₃, settled, holds₃⟩
  refine ⟨bench₃, (presses₁.trans presses₂).trans presses₃, ?_⟩
  have bare : fields₃.map Field.bare = targets.map Field.bare := by
    refine List.ext_getElem? ?_
    intro i
    rw [List.getElem?_map, List.getElem?_map]
    rcases Nat.lt_or_ge i fields.length with listed | beyond
    · exact settled i listed
    · have short : fields₃.length = fields.length ∧ targets.length = fields.length := by
        constructor
        · simpa using congrArg List.length names₃
        · simpa using congrArg List.length (names.trans declared.symm)
      rw [List.getElem?_eq_none (by omega), List.getElem?_eq_none (by omega)]
  calc
    bench₃.preview = compile form.name fields₃ options := by
      rw [preview, holds₃.model, Builder.keeping_memory]
    _ = compile form.name targets options := compile_eq_of_bare bare form.name options

theorem presses_eq_offers (distinct : form.fieldNames.Nodup) :
    {text | ∃ bench', Presses world bench bench' ∧ bench'.preview = text} = form.offers := by
  ext text
  constructor
  · rintro ⟨bench', presses, rfl⟩
    have sound' := sound.presses presses
    rcases sound'.keeps with ⟨fields, options, held, names⟩
    refine ⟨fields, options, names, ?_⟩
    rw [preview, held, Builder.keeping_memory]
  · rintro ⟨fields, options, names, rfl⟩
    exact sound.reach world distinct fields names options

end Sound
end Workbench

/-! ## Runs -/

namespace Running

/-- The previews that keys lead to without closing the workbench. -/
def previews (r : Running) : Set String :=
  {text | ∃ keys : List (Key × Modifiers), (∀ press ∈ keys, press.1 ≠ .escape) ∧
    ∃ bench, (r.run (keys.map fun press => .key press.1 press.2)).session.workbench = some bench ∧
      bench.preview = text}

/-- A key in an open workbench. -/
theorem step_key {r : Running} {bench bench' : Workbench} (open' : r.session.AtBench bench)
    {key : Key} {modifiers : Modifiers} (pressed : bench.onKey key modifiers r.world = some bench') :
    r.step (.key key modifiers) = ⟨{ r.session with workbench := some bench' }, r.world⟩ := by
  simp only [step, Session.onKey, open'.built, Session.onKeyBuilder, open'.here, pressed]

/-- The workbench is then at hand as before. -/
theorem step_key_atBench {r : Running} {bench bench' : Workbench}
    (open' : r.session.AtBench bench) {key : Key} {modifiers : Modifiers}
    (pressed : bench.onKey key modifiers r.world = some bench') :
    (r.step (.key key modifiers)).session.AtBench bench' := by
  rw [step_key open' pressed]
  exact ⟨open'.built, rfl⟩

theorem presses_of_run {r : Running} {bench bench' : Workbench}
    (open' : r.session.AtBench bench) (keys : List (Key × Modifiers))
    (stays : ∀ press ∈ keys, press.1 ≠ .escape)
    (leads : (r.run (keys.map fun press => .key press.1 press.2)).session.workbench =
      some bench') : Workbench.Presses r.world bench bench' := by
  induction keys generalizing r bench with
  | nil =>
      cases open'.here.symm.trans leads
      exact .refl
  | cons press keys ih =>
      have remains : bench.onKey press.1 press.2 r.world ≠ none := by
        intro closed
        exact stays press List.mem_cons_self (Workbench.onKey_eq_none.1 closed)
      rcases Option.ne_none_iff_exists'.1 remains with ⟨bench₁, pressed⟩
      have later : ∀ press ∈ keys, press.1 ≠ .escape := by
        intro other mem
        exact stays other (List.mem_cons_of_mem _ mem)
      have rest := ih (step_key_atBench open' pressed) later leads
      rw [step_key open' pressed] at rest
      exact .head ⟨press.1, press.2, pressed⟩ rest

theorem run_of_presses {world : World} {bench bench' : Workbench}
    (presses : Workbench.Presses world bench bench') {r : Running}
    (open' : r.session.AtBench bench) (same : r.world = world) :
    ∃ keys : List (Key × Modifiers), (∀ press ∈ keys, press.1 ≠ .escape) ∧
      (r.run (keys.map fun press => .key press.1 press.2)).session.workbench = some bench' := by
  induction presses using ReflTransGen.head_induction_on generalizing r with
  | refl => exact ⟨[], nofun, open'.here⟩
  | head pressed _ ih =>
      rcases pressed with ⟨key, modifiers, pressed⟩
      rw [← same] at pressed
      have kept : (r.step (.key key modifiers)).world = world := by
        rw [step_key open' pressed, same]
      rcases ih (step_key_atBench open' pressed) kept with ⟨keys, stays, leads⟩
      have stays' : ∀ press ∈ (key, modifiers) :: keys, press.1 ≠ .escape := by
        intro press mem
        rcases List.mem_cons.1 mem with rfl | later
        · intro escape
          rw [Workbench.onKey_eq_none.2 escape] at pressed
          cases pressed
        · exact stays press later
      exact ⟨(key, modifiers) :: keys, stays', leads⟩

/-! ## Opening a form -/

/-- These are the forms of the session, and the form at this place is open. -/
def Shows (r : Running) (forms : List Form) (index : Nat) : Prop :=
  r.session.forms = forms ∧ r.session.workbench.map (·.formIndex) = some index

/-- Down to a form of the list, and into it. -/
def visit (index : Nat) : List Step :=
  List.replicate index (.key .down {}) ++ [.key .enter {}]

theorem run_down {r : Running} {index : Nat} (listed : r.session.view = .list)
    (chosen : r.session.selected = some index) (count : Nat)
    (declared : index + count < r.session.forms.length) :
    r.run (List.replicate count (.key .down {})) =
      { r with session := { r.session with selected := some (index + count) } } := by
  induction count generalizing r index with
  | zero =>
      rw [Nat.add_zero, ← chosen]
      rfl
  | succ count ih =>
      have nonempty : ¬ r.session.forms.isEmpty = true := by
        rw [List.isEmpty_iff, ← List.length_eq_zero_iff]
        omega
      let r' : Running := { r with session := { r.session with selected := some (index + 1) } }
      have next : r.step (.key .down {}) = r' := by
        have below : min (index + 1) (r.session.forms.length - 1) = index + 1 := by omega
        simp only [step, Session.onKey, listed, Session.onKeyList, Session.moveDown,
          if_neg nonempty, chosen, Option.getD_some, below, r']
      have further : index + 1 + count < r'.session.forms.length := by
        dsimp only [r']
        omega
      rw [List.replicate_succ, run, List.foldl_cons, next]
      refine (ih (r := r') listed rfl further).trans ?_
      rw [Nat.add_assoc, Nat.add_comm 1 count]

/-- A session that begins with a list of forms opens any of them. -/
theorem visit_opens {source : Source} {world : World} {forms : List Form}
    (loaded : (source.load world.disk).result = .ok forms) (defaults : Options) {index : Nat}
    {form : Form} (declared : forms[index]? = some form) :
    ((start source defaults world).run (visit index)).Shows forms index := by
  have begun : (start source defaults world).session = .ofForms forms source defaults := by
    unfold start Session.load
    rcases found : source.load world.disk with ⟨disk, events, result⟩
    rw [found] at loaded
    cases loaded
    rfl
  have listed : index < forms.length := (List.getElem?_eq_some_iff.1 declared).1
  have nonempty : forms ≠ [] := by
    rintro rfl
    cases declared
  have down := run_down (r := start source defaults world) (by rw [begun]; rfl)
    (by rw [begun]; exact Session.firstOf_eq_some nonempty) index
    (by rw [begun, Nat.zero_add]; exact listed)
  have arrived : (start source defaults world).run (visit index) =
      ((start source defaults world).run (List.replicate index (.key .down {}))).step
        (.key .enter {}) := by
    rw [visit, run, List.foldl_append]
    rfl
  rw [arrived, down, Nat.zero_add]
  simp [Shows, step, Session.onKey, begun, Session.ofForms, Session.onKeyList,
    Session.openSelected, declared, Workbench.open]

/-- Wherever a form is open, the previews that keys lead to from there are the snippets that it
offers. -/
theorem previews_eq_offers {r : Running} (sound : r.session.Sound) {forms : List Form} {index : Nat}
    (shows : r.Shows forms index) {form : Form} (declared : forms[index]? = some form) :
    r.previews = form.offers := by
  rcases shows with ⟨rfl, opened⟩
  rcases Option.map_eq_some_iff.1 opened with ⟨bench, here, rfl⟩
  have open' : r.session.AtBench bench := sound.atBench here
  rcases sound.bench bench here with ⟨-, form', declared', fit⟩
  obtain rfl : form' = form := Option.some.inj (declared'.symm.trans declared)
  have distinct : form'.fieldNames.Nodup := sound.distinct form' (List.mem_of_getElem? declared)
  rw [← fit.presses_eq_offers r.world distinct]
  ext text
  constructor
  · rintro ⟨keys, stays, bench', leads, shows⟩
    exact ⟨bench', presses_of_run open' keys stays leads, shows⟩
  · rintro ⟨bench', presses, shows⟩
    rcases run_of_presses presses open' rfl with ⟨keys, stays, leads⟩
    exact ⟨keys, stays, bench', leads, shows⟩

end Running
end FormSnippet
