import FormSnippet.Proofs.Builder.Step
import FormSnippet.Proofs.Network.Course

/-!
# Draft — what a builder holds between two operations

Between two operations the cells of a builder rest.  What is in them then is a draft: a selection,
options, and the listeners with their numbers; the snippet is the one compiled from the draft, and
the rest of the cells does not vary.  A step of the builder of a draft leads to the builder of the
next draft, by a course that can be written down.

So that the runs of the compiler can be told apart from its result, a builder may be watched: then
each run leaves a mark in the memory.

- `Builder.watched`      : a builder whose compilations leave marks
- `Draft.builder`        : the builder that holds a draft
- `Draft.take`           : the draft after a step
- `Draft.take_course`    : the course of a step, with its events
- `watched_after`        : the builder after a history holds the draft after it
-/

namespace FormSnippet
namespace Builder

open Network

variable {σ : Type}

/-! ## Watched builders -/

/-- The mark that a run of the compiler leaves in the memory. -/
abbrev Watch (σ : Type) : Type :=
  List Field → Options → String → σ → σ

def watchedLink (formName : String) (watch : Watch σ) : Link Part Part.Value σ :=
  { link formName σ with trace := watch }

/-- A builder whose compilations leave marks. -/
def watched (watch : Watch σ) (form : Form) (options : Options) (memory : σ) : Builder σ :=
  let cells : Cells Part Part.Value σ
    | .fields => some (.new (form.fields.map fun field => Field.new field.name))
    | .options => some (.new options)
    | .code => none
  { formName := form.name
    network := derive ⟨cells, memory⟩ (watchedLink form.name watch) }

/-- Nobody watches an ordinary builder. -/
theorem open_eq_watched (form : Form) (options : Options) (memory : σ) :
    Builder.open form options memory = watched (fun _ _ _ memory => memory) form options memory :=
  rfl

/-! ## The cells of a draft -/

structure Draft (σ : Type) where
  formName : String
  watch : Watch σ
  fields : List Field
  options : Options
  /-- The listeners with the numbers of their registrations, oldest first. -/
  listeners : List (Nat × Listener σ)
  nextId : Nat
  memory : σ

def cellsOf (fields : Cell Part Part.Value σ .fields) (options : Cell Part Part.Value σ .options)
    (code : Cell Part Part.Value σ .code) : Cells Part Part.Value σ
  | .fields => some fields
  | .options => some options
  | .code => some code

section Cells

variable (fields fields' : Cell Part Part.Value σ .fields)
  (options options' : Cell Part Part.Value σ .options) (code code' : Cell Part Part.Value σ .code)

@[simp] theorem put_fields :
    (cellsOf fields options code).put .fields (some fields') = cellsOf fields' options code := by
  funext part
  cases part <;> rfl

@[simp] theorem put_options :
    (cellsOf fields options code).put .options (some options') = cellsOf fields options' code := by
  funext part
  cases part <;> rfl

@[simp] theorem put_code :
    (cellsOf fields options code).put .code (some code') = cellsOf fields options code' := by
  funext part
  cases part <;> rfl

end Cells

namespace Draft

def code (d : Draft σ) : String :=
  compile d.formName d.fields d.options

def ids (d : Draft σ) : List Nat :=
  d.listeners.map (·.1)

def fieldsCell (d : Draft σ) : Cell Part Part.Value σ .fields :=
  { value := d.fields
    subscribers := [⟨0, (watchedLink d.formName d.watch).onLeft⟩]
    nextId := 1
    notifying := false
    dirty := false
    removed := [] }

def optionsCell (d : Draft σ) : Cell Part Part.Value σ .options :=
  { value := d.options
    subscribers := [⟨0, (watchedLink d.formName d.watch).onRight⟩]
    nextId := 1
    notifying := false
    dirty := false
    removed := [] }

def codeCell (d : Draft σ) : Cell Part Part.Value σ .code :=
  { value := d.code
    subscribers := d.listeners.map .noting
    nextId := d.nextId
    notifying := false
    dirty := false
    removed := [] }

def cells (d : Draft σ) : Cells Part Part.Value σ :=
  cellsOf d.fieldsCell d.optionsCell d.codeCell

def network (d : Draft σ) : Network Part Part.Value σ :=
  ⟨d.cells, d.memory⟩

def builder (d : Draft σ) : Builder σ :=
  ⟨d.formName, d.network⟩

/-! ## Reading a builder -/

section Reading

variable (d : Draft σ)

@[simp] theorem builder_fields : d.builder.fields = d.fields := rfl

@[simp] theorem builder_options : d.builder.options = d.options := rfl

@[simp] theorem builder_code : d.builder.code = d.code := rfl

@[simp] theorem builder_memory : d.builder.memory = d.memory := rfl

theorem builder_stepLimit : d.builder.stepLimit = 16 + 3 * d.listeners.length := by
  have count : d.builder.listenerCount = d.listeners.length := List.length_map _
  rw [stepLimit, count]

end Reading

/-! ## Steps of a draft -/

/-- The snippet has been compiled, which has left its mark, and everybody has been told it, one after
the other. -/
def told (d : Draft σ) : Draft σ :=
  { d with
    memory := d.listeners.foldl (fun memory listener => listener.2 d.code memory)
      (d.watch d.fields d.options d.code d.memory) }

def take (d : Draft σ) (step : Step σ) : Draft σ :=
  match step with
  | .subscribe listener =>
      { d with
        listeners := d.listeners ++ [(d.nextId, listener)]
        nextId := d.nextId + 1
        memory := listener d.code d.memory }
  | .unsubscribe id => { d with listeners := d.listeners.filter (·.1 ≠ id) }
  | step =>
      match step.select? d.fields, step.adjust? d.options with
      | some fields, _ => { d with fields }.told
      | none, some options => { d with options }.told
      | none, none => d

def after (d : Draft σ) (steps : List (Step σ)) : Draft σ :=
  steps.foldl take d

section Taking

variable (d : Draft σ) (step : Step σ)

theorem take_fields : (d.take step).fields = step.selected d.fields := by
  cases step with
  | setField | omitField =>
      simp only [take, Step.selected, Step.adjust?]
      split <;> simp_all [told]
  | _ => rfl

theorem take_options : (d.take step).options = step.adjusted d.options := by
  cases step with
  | setField | omitField =>
      simp only [take, Step.adjusted, Step.adjust?]
      split <;> simp_all [told]
  | _ => rfl

/-- An operation on the selection or on the options leaves the rest of the draft to itself. -/
theorem take_operation (operates : step.operates = true) :
    ∃ memory, d.take step =
      { d with
        fields := step.selected d.fields
        options := step.adjusted d.options
        memory } := by
  refine ⟨(d.take step).memory, ?_⟩
  rw [← take_fields, ← take_options]
  cases step with
  | subscribe | unsubscribe => cases operates
  | setField | omitField =>
      simp only [take]
      split <;> rfl
  | _ => rfl

/-- The form and the watch are those of the beginning. -/
theorem take_origin : (d.take step).formName = d.formName ∧ (d.take step).watch = d.watch := by
  rcases step.operates_or_listens with operates | ⟨listener, rfl⟩ | ⟨id, rfl⟩
  · rcases d.take_operation step operates with ⟨_, same⟩
    rw [same]
    exact ⟨rfl, rfl⟩
  · exact ⟨rfl, rfl⟩
  · exact ⟨rfl, rfl⟩

end Taking

/-- What every step leaves alone is left alone by a history. -/
theorem after_kept {α : Type} {f : Draft σ → α} (kept : ∀ d step, f (d.take step) = f d)
    (d : Draft σ) (steps : List (Step σ)) : f (d.after steps) = f d := by
  induction steps generalizing d with
  | nil => rfl
  | cons step steps ih => exact (ih (d.take step)).trans (kept d step)

/-- The events of a round at a source, whose only subscriber refreshes the snippet. -/
def relay (d : Draft σ) (part : Part) (value : part.Value) : Trace Part Part.Value :=
  ⟨part, .stored value⟩ :: ⟨part, .began value⟩ :: ⟨part, .called 0 value⟩ ::
    ((announcement d.ids d.code).map (Sigma.mk Part.code) ++ [⟨part, .ended⟩])

def events (d : Draft σ) (step : Step σ) : Trace Part Part.Value :=
  match step with
  | .subscribe _ => [⟨.code, .enrolled d.nextId⟩]
  | .unsubscribe id => [⟨.code, .withdrawn id⟩]
  | step =>
      match step.select? d.fields, step.adjust? d.options with
      | some fields, _ => { d with fields }.relay .fields fields
      | none, some options => { d with options }.relay .options options
      | none, none => []

/-! ## Storing -/

section Storing

variable (d : Draft σ) (rest : List (Frame Part Part.Value σ))

/-- The snippet is compiled, stored in place of an old one, and told to every listener. -/
theorem refresh_course (old : String) (fields : Cell Part Part.Value σ .fields)
    (options : Cell Part Part.Value σ .options) :
    Course (3 * d.listeners.length + 4)
      ⟨cellsOf fields options { d.codeCell with value := old }, d.memory,
        .act ((watchedLink d.formName d.watch).refresh d.fields d.options) :: rest⟩
      ((announcement d.ids d.code).map (Sigma.mk Part.code))
      ⟨cellsOf fields options d.codeCell, d.told.memory, rest⟩ := by
  -- The mark of the compiler comes first, then the listeners take their notes.
  have here : cellsOf fields options { d.codeCell with value := old } .code =
      some { d.codeCell with value := old } := rfl
  have stored := Course.deliver here rfl rfl rfl rfl d.code (fun _ => .done)
    (d.watch d.fields d.options d.code d.memory) rest
  have ends := stored.trans (.silent .done (.refl _))
  rw [put_code, List.append_nil] at ends
  exact .silent .note ends

/-- The link hears of a selection and takes the options that are stored. -/
theorem onLeft_course (old : String) (fields : Cell Part Part.Value σ .fields) :
    Course (3 * d.listeners.length + 6)
      ⟨cellsOf fields d.optionsCell { d.codeCell with value := old }, d.memory,
        .act ((watchedLink d.formName d.watch).onLeft d.fields) :: rest⟩
      ((announcement d.ids d.code).map (Sigma.mk Part.code))
      ⟨cellsOf fields d.optionsCell d.codeCell, d.told.memory, rest⟩ := by
  refine .silent .get (.silent .get ?_)
  exact d.refresh_course rest old fields d.optionsCell

/-- The link hears of options and takes the selection that is stored. -/
theorem onRight_course (old : String) (options : Cell Part Part.Value σ .options) :
    Course (3 * d.listeners.length + 6)
      ⟨cellsOf d.fieldsCell options { d.codeCell with value := old }, d.memory,
        .act ((watchedLink d.formName d.watch).onRight d.options) :: rest⟩
      ((announcement d.ids d.code).map (Sigma.mk Part.code))
      ⟨cellsOf d.fieldsCell options d.codeCell, d.told.memory, rest⟩ := by
  refine .silent .get (.silent .get ?_)
  exact d.refresh_course rest old d.fieldsCell options

end Storing

/-! ## The course of a step -/

section Steps

variable (d : Draft σ)

/-- A selection is stored; the only subscriber of its cell is the link. -/
theorem set_fields_course (fields : List Field) :
    Course (3 * d.listeners.length + 10)
      (d.network.start (.set .fields fields fun _ => .done))
      ({ d with fields }.relay .fields fields) { d with fields }.told.network.idle := by
  -- The link reads the options and stores the snippet, so the busy cell stays as it is.
  have called := onLeft_course { d with fields }
    [.round .fields fields { d with fields }.fieldsCell.subscribers [], .act .done]
    d.code { d with fields }.fieldsCell.beginRound
  have here : d.cells .fields = some d.fieldsCell := rfl
  have began : d.cells.put .fields (some { d with fields }.fieldsCell.beginRound) =
      cellsOf { d with fields }.fieldsCell.beginRound d.optionsCell d.codeCell := put_fields ..
  have relayed := Course.relay here rfl rfl rfl rfl fields (fun _ => .done) rfl (began ▸ called)
  have whole := relayed.trans (.silent .done (.refl _))
  rw [put_fields, List.append_nil] at whole
  exact whole

/-- Options are stored; the only subscriber of their cell is the link. -/
theorem set_options_course (options : Options) :
    Course (3 * d.listeners.length + 10)
      (d.network.start (.set .options options fun _ => .done))
      ({ d with options }.relay .options options) { d with options }.told.network.idle := by
  have called := onRight_course { d with options }
    [.round .options options { d with options }.optionsCell.subscribers [], .act .done]
    d.code { d with options }.optionsCell.beginRound
  have here : d.cells .options = some d.optionsCell := rfl
  have began : d.cells.put .options (some { d with options }.optionsCell.beginRound) =
      cellsOf d.fieldsCell { d with options }.optionsCell.beginRound d.codeCell := put_options ..
  have relayed := Course.relay here rfl rfl rfl rfl options (fun _ => .done) rfl (began ▸ called)
  have whole := relayed.trans (.silent .done (.refl _))
  rw [put_options, List.append_nil] at whole
  exact whole

theorem setField_course (name : String) (patch : Patch) :
    ∃ n ≤ 16 + 3 * d.listeners.length,
      Course n (d.network.start (Step.setField name patch).action)
        (d.events (.setField name patch)) (d.take (.setField name patch)).network.idle := by
  have here : d.cells .fields = some d.fieldsCell := rfl
  simp only [events, take, Step.select?, Step.adjust?, Step.action]
  cases found : updateFirst? (fun (field : Field) => field.name == name) (·.patched patch)
      d.fields with
  | none =>
      have kept : Course 1 (d.network.start .done) [] d.network.idle := .silent .done (.refl _)
      exact ⟨2, by omega, .updateIf_none here found kept⟩
  | some fields =>
      exact ⟨_, by omega, .updateIf_some here found (d.set_fields_course fields)⟩

theorem observe_code (listener : Listener σ) :
    d.cells.put .code (some (d.codeCell.observe listener.callback)) =
      (d.take (.subscribe listener)).cells := by
  have enrolled :
      d.codeCell.observe listener.callback = (d.take (.subscribe listener)).codeCell := by
    simp only [Cell.observe, codeCell, take, List.map_append]
    rfl
  rw [enrolled]
  exact put_code ..

theorem withdraw_code (id : Nat) :
    d.cells.put .code (some (d.codeCell.withdraw id)) = (d.take (.unsubscribe id)).cells := by
  have withdrawn : d.codeCell.withdraw id = (d.take (.unsubscribe id)).codeCell := by
    simp only [Cell.withdraw, codeCell, take, List.filter_map]
    rfl
  rw [withdrawn]
  exact put_code ..

/-- The listener is told the snippet before it is registered. -/
theorem subscribe_course (listener : Listener σ) :
    Course 5 (d.network.start (Step.subscribe listener).action) [⟨.code, .enrolled d.nextId⟩]
      (d.take (.subscribe listener)).network.idle := by
  have here : d.cells .code = some d.codeCell := rfl
  refine .silent (.subscribe here) (.silent .note (.silent .done (.event (.enrol here) ?_)))
  rw [observe_code]
  exact .silent .done (.refl _)

theorem unsubscribe_course (id : Nat) :
    Course 2 (d.network.start (Step.unsubscribe id).action) [⟨.code, .withdrawn id⟩]
      (d.take (.unsubscribe id)).network.idle := by
  have here : d.cells .code = some d.codeCell := rfl
  have left : Course 1 ⟨(d.take (.unsubscribe id)).cells, d.memory, [.act .done]⟩ []
      (d.take (.unsubscribe id)).network.idle := .silent .done (.refl _)
  rw [← withdraw_code] at left
  exact .event (.withdraw here) left

/-- A step is performed within the limit of the builder, and leads to the next draft. -/
theorem take_course (step : Step σ) :
    ∃ n ≤ 16 + 3 * d.listeners.length,
      Course n (d.network.start step.action) (d.events step) (d.take step).network.idle := by
  cases step with
  | setField name patch => exact d.setField_course name patch
  | omitField name value =>
      -- Omitting is patching, as an action and as a step of the draft.
      exact d.setField_course name (.omitting value)
  | setAllFrontmatter value =>
      have here : d.cells .fields = some d.fieldsCell := rfl
      exact ⟨_, by omega, .update here (d.set_fields_course _)⟩
  | setOptions options => exact ⟨_, by omega, d.set_options_course options⟩
  | updateOptions f =>
      have here : d.cells .options = some d.optionsCell := rfl
      exact ⟨_, by omega, .update here (d.set_options_course _)⟩
  | subscribe listener => exact ⟨_, by omega, d.subscribe_course listener⟩
  | unsubscribe id => exact ⟨_, by omega, d.unsubscribe_course id⟩

/-- A step of the builder of a draft ends, with the events of the step and the next draft. -/
theorem perform_take (step : Step σ) :
    d.builder.network.perform? d.builder.stepLimit step.action = some (d.take step).network ∧
      (d.builder.network.start step.action).trace d.builder.stepLimit = d.events step := by
  rcases d.take_course step with ⟨n, enough, course⟩
  rw [builder_stepLimit]
  exact course.perform enough

theorem take_builder (step : Step σ) : d.builder.take step = (d.take step).builder := by
  rw [take_eq_perform, perform_eq (d.perform_take step).1, builder, builder, (d.take_origin step).1]

end Steps

/-- A builder that has just been opened, with the mark of its first compilation. -/
def opened (watch : Watch σ) (form : Form) (options : Options) (memory : σ) : Draft σ :=
  let fields := form.fields.map fun field => Field.new field.name
  { formName := form.name
    watch
    fields
    options
    listeners := []
    nextId := 0
    memory := watch fields options (compile form.name fields options) memory }

theorem opened_builder (watch : Watch σ) (form : Form) (options : Options) (memory : σ) :
    watched watch form options memory = (opened watch form options memory).builder := by
  have same : (watched watch form options memory).network.cells =
      (opened watch form options memory).cells := by
    funext part
    cases part <;> rfl
  rw [builder, network, ← same]
  rfl

theorem after_builder (d : Draft σ) (steps : List (Step σ)) :
    d.builder.after steps = (d.after steps).builder := by
  induction steps generalizing d with
  | nil => rfl
  | cons step steps ih =>
      rw [Builder.after, List.foldl_cons, take_builder]
      exact ih (d.take step)

end Draft

theorem watched_after (watch : Watch σ) (form : Form) (options : Options) (memory : σ)
    (steps : List (Step σ)) :
    (watched watch form options memory).after steps =
      ((Draft.opened watch form options memory).after steps).builder := by
  rw [Draft.opened_builder, Draft.after_builder]

end Builder
end FormSnippet
