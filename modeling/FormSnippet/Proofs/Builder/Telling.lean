import FormSnippet.Proofs.Builder.History

/-!
# Telling — who hears of a snippet

A subscription is live from its registration until its number is withdrawn.  Every operation on the
selection or on the options compiles the snippet once and tells it once to each live subscription,
in the order of the registrations, whether or not anything has changed.  An operation on a name that
no field carries does not even look at the listeners.

- `live`               : the subscriptions that a history leaves alive
- `after_listeners`    : they are the listeners of the draft
- `Draft.take_tells`   : an operation tells everybody
- `Draft.take_ignored` : an operation on an unknown name tells nobody
- `operations_tell_once` : both, for every builder that a history can lead to
-/

namespace FormSnippet

theorem updateFirst?_eq_none {α : Type} {p : α → Bool} {update : α → α} {xs : List α} :
    updateFirst? p update xs = none ↔ ∀ x ∈ xs, p x = false := by
  induction xs with
  | nil => simp [updateFirst?]
  | cons x xs ih => cases matched : p x <;> simp [updateFirst?, matched, ih]

namespace Builder

open Network

variable {σ : Type}

/-! ## Live subscriptions -/

namespace Step

/-- The step withdraws the subscription of that number. -/
def withdraws (id : Nat) : Step σ → Bool
  | .unsubscribe id' => id == id'
  | _ => false

def subscribes : Step σ → Bool
  | .subscribe _ => true
  | _ => false

end Step

/-- The subscriptions among these steps that none of the later steps withdraws, with their numbers,
which are counted from `next` on. -/
def liveFrom (next : Nat) : List (Step σ) → List (Nat × Listener σ)
  | [] => []
  | .subscribe listener :: steps =>
      if steps.any (·.withdraws next) then liveFrom (next + 1) steps
      else (next, listener) :: liveFrom (next + 1) steps
  | _ :: steps => liveFrom next steps

/-- The subscriptions that a history leaves alive, oldest first. -/
def live (steps : List (Step σ)) : List (Nat × Listener σ) :=
  liveFrom 0 steps

section Operation

variable {step : Step σ} (operates : step.operates = true)
include operates

theorem Step.withdraws_operation (id : Nat) : step.withdraws id = false := by
  cases step with
  | unsubscribe => cases operates
  | _ => rfl

theorem Step.subscribes_operation : step.subscribes = false := by
  cases step with
  | subscribe => cases operates
  | _ => rfl

theorem liveFrom_operation (next : Nat) (steps : List (Step σ)) :
    liveFrom next (step :: steps) = liveFrom next steps := by
  cases step with
  | subscribe => cases operates
  | _ => rfl

end Operation

namespace Draft

theorem after_listeners (d : Draft σ) (steps : List (Step σ)) :
    (d.after steps).listeners =
      d.listeners.filter (fun listener => !steps.any (·.withdraws listener.1)) ++
        liveFrom d.nextId steps := by
  induction steps generalizing d with
  | nil => simp [after, liveFrom]
  | cons step steps ih =>
      refine (ih (d.take step)).trans ?_
      rcases step.operates_or_listens with operates | ⟨listener, rfl⟩ | ⟨id, rfl⟩
      · rcases d.take_operation step operates with ⟨_, same⟩
        simp only [same, liveFrom_operation operates, List.any_cons,
          Step.withdraws_operation operates, Bool.false_or]
      · -- The newcomer stands at the end, in front of those that the later steps add.
        have none (id : Nat) : (Step.subscribe listener).withdraws id = false := rfl
        simp only [take, liveFrom, List.filter_append, List.filter_cons, List.filter_nil,
          List.any_cons, none, Bool.false_or, List.append_assoc]
        cases steps.any (·.withdraws d.nextId) <;> rfl
      · have one (id' : Nat) : (Step.unsubscribe id : Step σ).withdraws id' = (id' == id) := rfl
        simp only [take, liveFrom, List.filter_filter, List.any_cons, one, Bool.not_or]
        congr 2
        funext listener
        by_cases same : listener.1 = id <;> simp [same]

theorem after_nextId (d : Draft σ) (steps : List (Step σ)) :
    (d.after steps).nextId = d.nextId + steps.countP (·.subscribes) := by
  induction steps generalizing d with
  | nil => rfl
  | cons step steps ih =>
      refine (ih (d.take step)).trans ?_
      rcases step.operates_or_listens with operates | ⟨listener, rfl⟩ | ⟨id, rfl⟩
      · rcases d.take_operation step operates with ⟨_, same⟩
        simp [same, Step.subscribes_operation operates]
      · rw [List.countP_cons_of_pos rfl]
        simp only [take]
        omega
      · rfl

theorem relay_code (d : Draft σ) {part : Part} (source : part ≠ .code) (value : part.Value) :
    (d.relay part value).of .code = announcement d.ids d.code := by
  rw [relay, Trace.of_cons_other source, Trace.of_cons_other source, Trace.of_cons_other source,
    Trace.of_append, Trace.of_map, Trace.of_cons_other source, Trace.of_nil, List.append_nil]

/-- The step stores what it says, and tells the snippet to everybody. -/
structure Tells (d : Draft σ) (step : Step σ) : Prop where
  next : d.take step =
    { d with
      fields := step.selected d.fields
      options := step.adjusted d.options }.told
  heard : (d.events step).of .code = announcement d.ids (d.take step).code

theorem setField_tells (d : Draft σ) {name : String} (known : name ∈ d.fields.map (·.name))
    (patch : Patch) : d.Tells (.setField name patch) := by
  rcases List.mem_map.1 known with ⟨field, member, named⟩
  cases found : (Step.setField name patch : Step σ).select? d.fields with
  | none =>
      -- Some field carries the name, so there is a match.
      have other := updateFirst?_eq_none.1 found field member
      simp [named] at other
  | some fields =>
      have source : Part.fields ≠ .code := by decide
      constructor
      · simp only [take, Step.selected, found, Step.adjusted, Step.adjust?]
        rfl
      · simp only [take, events, found, Step.adjust?]
        exact relay_code _ source _

/-- An operation on the selection or on the options tells the snippet to everybody, unless it is
meant for a name that no field carries. -/
theorem take_tells (d : Draft σ) {step : Step σ} (operates : step.operates = true)
    (known : ∀ name, step.target? = some name → name ∈ d.fields.map (·.name)) : d.Tells step := by
  have fields_source : Part.fields ≠ .code := by decide
  have options_source : Part.options ≠ .code := by decide
  cases step with
  | subscribe | unsubscribe => cases operates
  | setField name patch => exact d.setField_tells (known name rfl) patch
  | omitField name value =>
      -- Omitting is patching, for the draft and for the events.
      have patched := d.setField_tells (known name rfl) (.omitting value)
      exact ⟨patched.next, patched.heard⟩
  | setAllFrontmatter value => exact ⟨rfl, relay_code _ fields_source _⟩
  | setOptions options => exact ⟨rfl, relay_code _ options_source _⟩
  | updateOptions f => exact ⟨rfl, relay_code _ options_source _⟩

/-- A step for a name that no field carries changes nothing and tells nobody. -/
theorem take_ignored (d : Draft σ) {step : Step σ} {name : String}
    (meant : step.target? = some name) (unknown : name ∉ d.fields.map (·.name)) :
    d.take step = d ∧ d.events step = [] := by
  have refused (patch : Patch) :
      (Step.setField name patch : Step σ).select? d.fields = none := by
    refine updateFirst?_eq_none.2 fun field member => ?_
    simpa using fun same => unknown (List.mem_map.2 ⟨field, member, same⟩)
  have ignored (patch : Patch) : d.take (.setField name patch) = d ∧
      d.events (.setField name patch) = [] := by
    constructor
    · simp only [take, refused, Step.adjust?]
    · simp only [events, refused, Step.adjust?]
  cases step with
  | setField target patch =>
      cases meant
      exact ignored patch
  | omitField target value =>
      cases meant
      exact ignored (.omitting value)
  | _ => cases meant

end Draft

/-! ## The law -/

/-- Every operation on the selection or on the options of a builder compiles the snippet once and
then tells it to each live subscription once, in their order; only one that is meant for a name that
the form does not declare does nothing at all.  Whatever has happened, the snippet is up to date. -/
theorem operations_tell_once (watch : Watch σ) (form : Form) (options : Options) (memory : σ)
    (steps : List (Step σ)) (step : Step σ) :
    let b := (watched watch form options memory).after steps
    let b' := b.take step
    let trace := (b.network.start step.action).trace b.stepLimit
    Builder.open form options memory = watched (fun _ _ _ memory => memory) form options memory ∧
    b.network.perform? b.stepLimit step.action = some b'.network ∧
    b'.code = compile form.name b'.fields b'.options ∧
    (∀ name, step.target? = some name → name ∉ form.fieldNames → b' = b ∧ trace = []) ∧
    (step.operates = true → (∀ name, step.target? = some name → name ∈ form.fieldNames) →
      trace.of .code = announcement ((live steps).map (·.1)) b'.code ∧
      b'.memory = (live steps).foldl (fun memory listener => listener.2 b'.code memory)
        (watch b'.fields b'.options b'.code b.memory)) ∧
    ∀ listener, (b.subscribe listener).2 = steps.countP (·.subscribes) := by
  intro b b' trace
  let d := (Draft.opened watch form options memory).after steps
  have held : b = d.builder := watched_after watch form options memory steps
  have held' : b' = (d.take step).builder := by rw [← d.take_builder, ← held]
  have events : trace = d.events step := by
    simp only [trace, held]
    exact (d.perform_take step).2
  have names : d.fields.map (·.name) = form.fieldNames :=
    (Draft.after_names ..).trans (Draft.opened_names ..)
  have listeners : d.listeners = live steps := Draft.after_listeners ..
  have nextId : d.nextId = steps.countP (·.subscribes) :=
    (Draft.after_nextId ..).trans (Nat.zero_add _)
  have formName : d.formName = form.name :=
    Draft.after_kept (f := Draft.formName) (fun d step => (d.take_origin step).1) _ steps
  have watching : d.watch = watch :=
    Draft.after_kept (f := Draft.watch) (fun d step => (d.take_origin step).2) _ steps
  refine ⟨open_eq_watched form options memory, ?ends, ?current, ?ignored, ?told, ?numbered⟩
  case ends =>
    rw [held, held']
    exact (d.perform_take step).1
  case current =>
    rw [held', Draft.builder_code, Draft.builder_fields, Draft.builder_options, ← formName,
      ← (d.take_origin step).1]
    rfl
  case ignored =>
    intro name meant unknown
    rcases d.take_ignored meant (names ▸ unknown) with ⟨same, silent⟩
    exact ⟨by rw [held', same, held], events.trans silent⟩
  case told =>
    intro operates known
    rcases d.take_tells operates (names ▸ known) with ⟨told, heard⟩
    rw [events, heard, held', held, Draft.ids, listeners]
    refine ⟨rfl, ?_⟩
    rw [Draft.builder_memory, Draft.builder_memory, told, ← listeners, ← watching]
    rfl
  case numbered =>
    intro listener
    rw [held, ← nextId]
    rfl

/-- The first of three listeners is withdrawn; the compiler and the others leave their numbers. -/
theorem operations_tell_once_three :
    let hear (number : Nat) : Listener (List (Nat × String)) :=
      fun code log => log ++ [(number, code)]
    let steps := [.subscribe (hear 1), .subscribe (hear 2), .unsubscribe 0, .subscribe (hear 3)]
    let b := (watched (fun _ _ code log => log ++ [(0, code)]) twins {} []).after steps
    let b' := b.take (.omitField "date" true)
    ("date" ∈ twins.fieldNames ∧
      b'.memory = b.memory ++ [(0, b'.code), (2, b'.code), (3, b'.code)]) ∧
    ("due" ∉ twins.fieldNames ∧ b.take (.omitField "due" true) = b) := by
  intro hear steps b b'
  have declared : "date" ∈ twins.fieldNames := by decide
  have undeclared : "due" ∉ twins.fieldNames := by decide
  have law (name : String) := operations_tell_once (fun _ _ code log => log ++ [(0, code)]) twins {}
    [] steps (.omitField name true)
  have told := ((law "date").2.2.2.2.1 rfl fun name meant => by cases meant; exact declared).2
  have ignored := ((law "due").2.2.2.1 "due" rfl undeclared).1
  refine ⟨⟨declared, ?_⟩, undeclared, ignored⟩
  simpa [live, liveFrom, Step.withdraws, steps, hear] using told

end Builder
end FormSnippet
