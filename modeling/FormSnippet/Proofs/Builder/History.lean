import FormSnippet.Proofs.Builder.Draft

/-!
# History — what a selection owes to the steps before

A field of a builder goes its own way: its choice is the fold of the steps that concern it, and no
other step shows in it.  A step that is meant for a name concerns the first field of that name; a
step on all fields concerns every field; a step on the options concerns none.

- `Step.concerns`       : the steps that concern a field
- `Step.change`         : what such a step makes of the choice
- `selected_getElem?`   : one step, field by field
- `Apart.selected`      : steps that have nothing to do with each other commute
- `history_law`         : selection and options after a history
-/

namespace FormSnippet

/-- Only the first match is replaced. -/
theorem updateFirst?_getElem? {α : Type} (p : α → Bool) (update : α → α) (xs : List α) (i : Nat) :
    ((updateFirst? p update xs).getD xs)[i]? =
      xs[i]?.map fun x => if p x = true ∧ ∀ y ∈ xs.take i, p y = false then update x else x := by
  induction xs generalizing i with
  | nil => rfl
  | cons x xs ih =>
      cases matched : p x with
      | true => cases i <;> simp [updateFirst?, matched]
      | false =>
          -- The head stays, whether or not there is a match behind it.
          have same : (updateFirst? p update (x :: xs)).getD (x :: xs) =
              x :: (updateFirst? p update xs).getD xs := by
            cases found : updateFirst? p update xs <;> simp [updateFirst?, matched, found]
          rw [same]
          cases i with
          | zero => simp [matched]
          | succ i => simp [matched, ih]

namespace Builder

variable {σ : Type}

/-! ## The steps that concern a field -/

namespace Step

/-- The step concerns a field of that name, which may be the first of its name or not. -/
def concerns (name : String) (first : Bool) : Step σ → Bool
  | .setField target _ | .omitField target _ => first && target == name
  | .setAllFrontmatter _ => true
  | _ => false

/-- What the step makes of the choice of a field that it concerns. -/
def change (choice : Choice) : Step σ → Choice
  | .setField _ patch => choice.merge patch
  | .omitField _ value => choice.merge (.omitting value)
  | .setAllFrontmatter value =>
      if choice.isOmitted then choice else choice.merge (.frontmattering value)
  | _ => choice

/-- The field at index `i`, where the fields carry these names, after the step. -/
def touch (step : Step σ) (names : List String) (i : Nat) (field : Field) : Field :=
  if step.concerns field.name (field.name ∉ names.take i) then
    { field with choice := step.change field.choice }
  else field

@[simp] theorem touch_name (step : Step σ) (names : List String) (i : Nat) (field : Field) :
    (step.touch names i field).name = field.name := by
  rw [touch]
  split <;> rfl

theorem touch_eq_self {step : Step σ} {names : List String} {i : Nat} {field : Field}
    (unconcerned : step.concerns field.name (field.name ∉ names.take i) = false) :
    step.touch names i field = field := by
  rw [touch, unconcerned]
  rfl

theorem touch_setField (target : String) (patch : Patch) (fields : List Field) (i : Nat)
    (field : Field) :
    (setField target patch : Step σ).touch (fields.map (·.name)) i field =
      if (field.name == target) = true ∧ ∀ other ∈ fields.take i, (other.name == target) = false
      then field.patched patch else field := by
  have first : target ∉ (fields.map (·.name)).take i ↔
      ∀ other ∈ fields.take i, other.name ≠ target := by
    simp [← List.map_take]
  by_cases named : field.name = target
  · subst named
    simp [touch, concerns, change, Field.patched, first]
  · have other : target ≠ field.name := Ne.symm named
    simp [touch, concerns, named, other]

theorem touch_setAllFrontmatter (value : Bool) (names : List String) (i : Nat) (field : Field) :
    (setAllFrontmatter value : Step σ).touch names i field = field.setFrontmatter value := by
  rcases field with ⟨name, _ | _⟩ <;> rfl

/-- A step touches each field for itself. -/
theorem selected_getElem? (step : Step σ) (fields : List Field) (i : Nat) :
    (step.selected fields)[i]? = fields[i]?.map (step.touch (fields.map (·.name)) i) := by
  have patched (target : String) (patch : Patch) :
      ((setField target patch : Step σ).selected fields)[i]? =
        fields[i]?.map ((setField target patch : Step σ).touch (fields.map (·.name)) i) := by
    rw [selected, select?, updateFirst?_getElem?]
    congr 1
    funext field
    rw [touch_setField]
  cases step with
  | setField target patch => exact patched target patch
  | omitField target value =>
      -- Omitting is patching, for the selection and for the field.
      exact patched target (.omitting value)
  | setAllFrontmatter value =>
      rw [selected, select?, Option.getD_some, List.getElem?_map]
      congr 1
      funext field
      rw [touch_setAllFrontmatter]
  | _ => exact Option.map_id'.symm

theorem selected_names (step : Step σ) (fields : List Field) :
    (step.selected fields).map (·.name) = fields.map (·.name) := by
  refine List.ext_getElem? fun i => ?_
  rw [List.getElem?_map, List.getElem?_map, selected_getElem?, Option.map_map]
  congr 1
  funext field
  simp

/-- Where the names are distinct, a patch for a name changes the one field that carries it. -/
theorem selected_setField {fields : List Field} {index : Nat} {field : Field}
    (distinct : (fields.map (·.name)).Nodup) (here : fields[index]? = some field) (patch : Patch) :
    (setField field.name patch : Step σ).selected fields =
      fields.set index (field.patched patch) := by
  rcases List.getElem?_eq_some_iff.1 here with ⟨listed, rfl⟩
  have sole : ∀ i (_ : i < fields.length), fields[i].name = fields[index].name → i = index := by
    intro i listed' same
    have names : (fields.map (·.name))[i]? = (fields.map (·.name))[index]? := by
      simp [listed, listed', same]
    exact (List.getElem?_inj (by simpa using listed') distinct).1 names
  refine List.ext_getElem? ?_
  intro i
  rw [selected_getElem?, List.getElem?_set]
  by_cases same : index = i
  · subst same
    have first : fields[index].name ∉ (fields.map (·.name)).take index := by
      intro earlier
      rcases List.mem_take_iff_getElem.1 earlier with ⟨j, before, same⟩
      have again : j = index := sole j (by omega) (by simpa using same)
      omega
    simp [touch, concerns, change, Field.patched, listed, first]
  · rw [if_neg same]
    rcases Nat.lt_or_ge i fields.length with listed' | beyond
    · have other : fields[index].name ≠ fields[i].name := by
        intro named
        exact same (sole i listed' named.symm).symm
      simp [touch, concerns, listed', other]
    · simp [beyond]

/-- Over many steps, the choice of a field is the fold of those that concern it. -/
theorem foldl_selected_getElem? (steps : List (Step σ)) (fields : List Field) (i : Nat) :
    (steps.foldl (fun fields step => step.selected fields) fields)[i]? =
      fields[i]?.map fun field =>
        ⟨field.name,
          (steps.filter
            (·.concerns field.name (field.name ∉ (fields.map (·.name)).take i))).foldl change
              field.choice⟩ := by
  induction steps generalizing fields with
  | nil => exact Option.map_id'.symm
  | cons step steps ih =>
      -- The names stay, so the later steps concern the same fields as before this one.
      rw [List.foldl_cons, ih, selected_names, selected_getElem?, Option.map_map]
      congr 1
      funext field
      rw [Function.comp_apply, touch_name, List.filter_cons, touch]
      split <;> rfl

/-! ## Steps that have nothing to do with each other -/

/-- The steps are meant for fields of different names, or one of them for the selection and the
other for the options. -/
def Apart (s t : Step σ) : Prop :=
  (∃ name name', s.target? = some name ∧ t.target? = some name' ∧ name ≠ name') ∨
    (s.onFields = true ∧ t.onOptions = true) ∨ (s.onOptions = true ∧ t.onFields = true)

theorem onFields_of_target {step : Step σ} {target : String} (meant : step.target? = some target) :
    step.onFields = true := by
  cases step <;> simp_all [target?, onFields]

theorem not_onOptions_of_onFields {step : Step σ} (field : step.onFields = true) :
    step.onOptions = false := by
  cases step <;> simp_all [onFields, onOptions]

theorem adjusted_eq_self {step : Step σ} {options : Options} (other : step.onOptions = false) :
    step.adjusted options = options := by
  cases step <;> simp_all [onOptions, adjusted, adjust?]

namespace Apart

variable {s t : Step σ}

/-- No field is concerned by both. -/
theorem not_both (apart : Apart s t) (name : String) (first : Bool) :
    s.concerns name first = false ∨ t.concerns name first = false := by
  rcases apart with ⟨target, target', hs, ht, differ⟩ | ⟨-, ht⟩ | ⟨hs, -⟩
  · by_cases named : target = name
    · have other : target' ≠ name := fun same => differ (named.trans same.symm)
      right
      cases t <;> simp_all [target?, concerns]
    · left
      cases s <;> simp_all [target?, concerns]
  · right
    cases t <;> simp_all [onOptions, concerns]
  · left
    cases s <;> simp_all [onOptions, concerns]

theorem touch (apart : Apart s t) (names : List String) (i : Nat) (field : Field) :
    t.touch names i (s.touch names i field) = s.touch names i (t.touch names i field) := by
  rcases apart.not_both field.name (field.name ∉ names.take i) with unconcerned | unconcerned
  · have later : s.touch names i (t.touch names i field) = t.touch names i field :=
      touch_eq_self (by rwa [touch_name])
    rw [touch_eq_self unconcerned, later]
  · have later : t.touch names i (s.touch names i field) = s.touch names i field :=
      touch_eq_self (by rwa [touch_name])
    rw [touch_eq_self unconcerned, later]

theorem selected (apart : Apart s t) (fields : List Field) :
    t.selected (s.selected fields) = s.selected (t.selected fields) := by
  refine List.ext_getElem? fun i => ?_
  simp only [selected_getElem?, selected_names, Option.map_map]
  congr 1
  funext field
  exact apart.touch (fields.map (·.name)) i field

/-- At most one of them is for the options. -/
theorem not_both_options (apart : Apart s t) : s.onOptions = false ∨ t.onOptions = false := by
  rcases apart with ⟨target, _, meant, _, _⟩ | ⟨field, _⟩ | ⟨_, field⟩
  · exact .inl (not_onOptions_of_onFields (onFields_of_target meant))
  · exact .inl (not_onOptions_of_onFields field)
  · exact .inr (not_onOptions_of_onFields field)

theorem adjusted (apart : Apart s t) (options : Options) :
    t.adjusted (s.adjusted options) = s.adjusted (t.adjusted options) := by
  rcases apart.not_both_options with other | other
  · rw [adjusted_eq_self other, adjusted_eq_self other]
  · rw [adjusted_eq_self other, adjusted_eq_self other]

theorem operate (apart : Apart s t) : s.operates = true ∧ t.operates = true := by
  rcases apart with ⟨target, target', hs, ht, _⟩ | ⟨hs, ht⟩ | ⟨hs, ht⟩
  · simp [operates, onFields_of_target hs, onFields_of_target ht]
  · simp [operates, hs, ht]
  · simp [operates, hs, ht]

/-- Two steps that are apart lead to the same cells, whichever comes first. -/
theorem cells (apart : Apart s t) (d : Draft σ) :
    ((d.take s).take t).cells = ((d.take t).take s).cells := by
  rcases apart.operate with ⟨hs, ht⟩
  rcases d.take_operation s hs with ⟨_, first⟩
  rcases d.take_operation t ht with ⟨_, first'⟩
  rcases (d.take s).take_operation t ht with ⟨_, second⟩
  rcases (d.take t).take_operation s hs with ⟨_, second'⟩
  rw [second, second', first, first', apart.selected, apart.adjusted]
  rfl

end Apart
end Step

/-! ## The law -/

theorem Draft.after_fields (d : Draft σ) (steps : List (Step σ)) :
    (d.after steps).fields = steps.foldl (fun fields step => step.selected fields) d.fields := by
  induction steps generalizing d with
  | nil => rfl
  | cons step steps ih =>
      rw [List.foldl_cons, ← d.take_fields]
      exact ih (d.take step)

theorem Draft.after_options (d : Draft σ) (steps : List (Step σ)) :
    (d.after steps).options =
      (steps.filter (·.onOptions)).foldl (fun options step => step.adjusted options) d.options := by
  induction steps generalizing d with
  | nil => rfl
  | cons step steps ih =>
      rw [Draft.after, List.foldl_cons]
      refine (ih (d.take step)).trans ?_
      rw [d.take_options, List.filter_cons]
      split
      · rfl
      · rw [Step.adjusted_eq_self (by simp_all)]

theorem Draft.opened_names (watch : Watch σ) (form : Form) (options : Options) (memory : σ) :
    (opened watch form options memory).fields.map (·.name) = form.fieldNames := by
  rw [opened, List.map_map]
  rfl

theorem Draft.after_names (d : Draft σ) (steps : List (Step σ)) :
    (d.after steps).fields.map (·.name) = d.fields.map (·.name) :=
  after_kept (f := fun d => d.fields.map (·.name))
    (fun d step => by rw [d.take_fields, Step.selected_names]) d steps

/-- After any history of a builder, each field has the choice that the steps that concern it make
of a fresh one, and the options are what the steps on the options make of the first ones.  Steps for
different names commute, and so do a step on the selection and one on the options. -/
theorem history_law (form : Form) (options : Options) (memory : σ) (steps : List (Step σ)) :
    let b := (Builder.open form options memory).after steps
    b.fields.map (·.name) = form.fieldNames ∧
    (∀ (i : Nat) (name : String), form.fieldNames[i]? = some name →
      b.fields[i]? = some
        { name
          choice :=
            (steps.filter (·.concerns name (name ∉ form.fieldNames.take i))).foldl Step.change
              .fresh }) ∧
    b.options =
      (steps.filter (·.onOptions)).foldl (fun options step => step.adjusted options) options ∧
    ∀ s t : Step σ, s.Apart t →
      ((b.take s).take t).network.cells = ((b.take t).take s).network.cells := by
  intro b
  let d := Draft.opened (fun _ _ _ memory => memory) form options memory
  have held : b = (d.after steps).builder := watched_after _ form options memory steps
  have names : d.fields.map (·.name) = form.fieldNames := Draft.opened_names ..
  rw [held]
  refine ⟨(d.after_names steps).trans names, ?fields, d.after_options steps, ?commute⟩
  case fields =>
    intro i name declared
    have fresh : d.fields[i]? = some (Field.new name) := by
      rw [Form.fieldNames, List.getElem?_map, Option.map_eq_some_iff] at declared
      rcases declared with ⟨field, here, rfl⟩
      rw [show d.fields = form.fields.map fun field => Field.new field.name from rfl,
        List.getElem?_map, here]
      rfl
    rw [Draft.builder_fields, d.after_fields, Step.foldl_selected_getElem?, fresh, names]
    rfl
  case commute =>
    intro s t apart
    rw [Draft.take_builder, Draft.take_builder, Draft.take_builder, Draft.take_builder]
    exact apart.cells (d.after steps)

/-- A form that declares one name twice. -/
def twins : Form :=
  { name := "Invoice"
    title := none
    fields := [⟨"amount", none, none⟩, ⟨"date", none, none⟩, ⟨"amount", none, none⟩] }

/-- The second of two fields with one name goes by the steps for all fields alone. -/
theorem history_law_twins :
    let steps : List (Step Unit) :=
      [.omitField "amount" true, .setAllFrontmatter true,
        .setField "amount" ⟨some false, none, some true⟩]
    let b := (Builder.open twins {} ()).after steps
    (twins.fieldNames[0]? = some "amount" ∧
      b.fields[0]? = some ⟨"amount", .included false true⟩) ∧
    (twins.fieldNames[2]? = some "amount" ∧
      b.fields[2]? = some ⟨"amount", .included true false⟩) ∧
    Step.Apart (.omitField "amount" true) (.omitField "date" true : Step Unit) ∧
      ((b.take (.omitField "amount" true)).take (.omitField "date" true)).network.cells =
        ((b.take (.omitField "date" true)).take (.omitField "amount" true)).network.cells := by
  intro steps b
  have law := history_law twins {} () steps
  have differ : Step.Apart (.omitField "amount" true) (.omitField "date" true : Step Unit) :=
    .inl ⟨"amount", "date", rfl, rfl, by decide⟩
  refine ⟨⟨rfl, (law.2.1 0 "amount" rfl).trans ?_⟩, ⟨rfl, (law.2.1 2 "amount" rfl).trans ?_⟩,
    differ, law.2.2.2 _ _ differ⟩
  · decide
  · decide

end Builder
end FormSnippet
