import FormSnippet.Proofs.Session.Press

/-!
# Visit — an open form and the list around it

From the key that opens a form to the key that closes it, a session keeps all that belongs to the
list.  Whatever happens in between is done to the workbench alone, and the workbench is dropped in
the end; so the list comes back as it was, and the form opens as it did before.

- `Workbench.Untouched`         : a workbench on which nothing has been done
- `Running.run_worked`          : with a form open, only the workbench changes
- `Running.visit_leaves_nothing` : the list after a visit, and the next visit
-/

namespace FormSnippet

/-! ## Opening -/

/-- The workbench is for the form of that index, all fields of it are included with both flags off,
and nothing has been selected, scrolled or said. -/
structure Workbench.Untouched (bench : Workbench) (index : Nat) (form : Form) (options : Options) :
    Prop where
  formIndex : bench.formIndex = index
  formName : bench.model.formName = form.name
  fields : bench.model.fields = form.fields.map fun field => ⟨field.name, .included false false⟩
  options : bench.model.options = options
  selected : bench.selected = 0
  scroll : bench.scroll = 0
  status : bench.status = none
  preview : bench.preview = compile form.name bench.model.fields bench.model.options

theorem Workbench.open_untouched (index : Nat) (form : Form) (options : Options) :
    (Workbench.open index form options).Untouched index form options := by
  have model : (Workbench.open index form options).model =
      .keeping form.name (form.fields.map fun field => Field.new field.name) options :=
    congrArg Prod.fst (Builder.subscribe_open form options)
  constructor
  case formIndex | selected | scroll | status => rfl
  case formName | fields | options => rw [model]; rfl
  case preview => rw [Workbench.preview, model]; rfl

theorem Session.openSelected_of_some {session : Session} {index : Nat} {form : Form}
    (chosen : session.selected = some index) (found : session.forms[index]? = some form) :
    session.openSelected =
      { session with
        view := .builder
        workbench := some (.open index form session.defaults) } := by
  simp only [openSelected, chosen, found]

/-! ## Steps with a form open -/

/-- The step is not the key that closes a workbench. -/
def Step.Stays : Step → Prop
  | .key pressed _ => pressed ≠ .escape
  | _ => True

namespace Running

theorem step_worked {r : Running} {bench : Workbench} (open' : r.session.AtBench bench)
    {step : Step} (stays : step.Stays) :
    ∃ bench', (r.step step).session = { r.session with workbench := some bench' } := by
  cases step with
  | key key modifiers =>
      have remains : bench.onKey key modifiers r.world ≠ none := by
        intro closed
        exact stays (Workbench.onKey_eq_none.1 closed)
      rcases Option.ne_none_iff_exists'.1 remains with ⟨bench', pressed⟩
      exact ⟨bench', congrArg Running.session (step_key open' pressed)⟩
  | mouse mouse =>
      -- The mouse is for the list.
      refine ⟨bench, Eq.trans ?_ open'.eq⟩
      simp only [Running.step, Session.onMouse, open'.built]
  | render width height => exact ⟨bench.arrange width height, open'.arrange_eq width height⟩
  | wait _ => exact ⟨bench, open'.eq⟩
  | setEditor _ => exact ⟨bench, open'.eq⟩
  | changeFiles _ => exact ⟨bench, open'.eq⟩
  | changeSystem _ => exact ⟨bench, open'.eq⟩

theorem run_worked {r : Running} {bench : Workbench} (open' : r.session.AtBench bench)
    {steps : List Step} (stays : ∀ step ∈ steps, step.Stays) :
    ∃ bench', (r.run steps).session = { r.session with workbench := some bench' } := by
  induction steps generalizing r bench with
  | nil => exact ⟨bench, open'.eq⟩
  | cons step steps ih =>
      rcases List.forall_mem_cons.1 stays with ⟨first, later⟩
      rcases step_worked open' first with ⟨bench₁, next⟩
      have again : (r.step step).session.AtBench bench₁ := by
        rw [next]
        exact ⟨open'.built, rfl⟩
      rcases ih again later with ⟨bench₂, rest⟩
      refine ⟨bench₂, ?_⟩
      calc (r.run (step :: steps)).session
          = ((r.step step).run steps).session := rfl
        _ = { (r.step step).session with workbench := some bench₂ } := rest
        _ = { r.session with workbench := some bench₂ } := by rw [next]

/-- The key that closes a workbench, whatever has become of the workbench. -/
theorem step_escape {r : Running} {bench : Workbench} (open' : r.session.AtBench bench)
    (modifiers : Modifiers) :
    (r.step (.key .escape modifiers)).session =
      { r.session with view := .list, workbench := none } := by
  simp only [Running.step, Session.onKey, open'.built, Session.onKeyBuilder, open'.here,
    Workbench.onKey, Session.closeBuilder]

/-- The key that opens a form depends on the session alone. -/
theorem step_enter {r : Running} (listed : r.session.view = .list) (modifiers : Modifiers) :
    (r.step (.key .enter modifiers)).session = r.session.openSelected := by
  simp only [Running.step, Session.onKey, listed, Session.onKeyList]

/-! ## Visits -/

/-- From any list that is reached, the key that opens a form opens an untouched workbench for the
selected one.  With it open, no step but the escape key changes anything but the workbench; the
escape key gives the session back exactly as it was, and from there the same workbench is opened
again. -/
theorem visit_leaves_nothing (source : Source) (defaults : Options) (world : World)
    (before during : List Step) (enter leave again : Modifiers) :
    let r := (start source defaults world).run before
    let opened := r.step (.key .enter enter)
    let left := (opened.run during).step (.key .escape leave)
    r.session.view = .list → (∀ step ∈ during, step.Stays) →
      (∃ index form bench, r.session.selected = some index ∧
        r.session.forms[index]? = some form ∧
        opened.session = { r.session with view := .builder, workbench := some bench } ∧
        bench.Untouched index form r.session.defaults) ∧
      (∃ bench, (opened.run during).session =
        { r.session with view := .builder, workbench := some bench }) ∧
      left.session = r.session ∧
      (left.step (.key .enter again)).session = opened.session := by
  intro r opened left listed stays
  have sound : r.session.Sound := run_sound source defaults world before
  rcases sound.selected (sound.nonempty listed) with ⟨index, chosen, declared⟩
  have found : r.session.forms[index]? = some r.session.forms[index] :=
    List.getElem?_eq_getElem declared
  have entered : opened.session =
      { r.session with
        view := .builder
        workbench := some (.open index r.session.forms[index] r.session.defaults) } :=
    (step_enter listed enter).trans (Session.openSelected_of_some chosen found)
  have worked : ∃ bench, (opened.run during).session =
      { r.session with view := .builder, workbench := some bench } := by
    have open' :
        opened.session.AtBench (.open index r.session.forms[index] r.session.defaults) := by
      rw [entered]
      exact ⟨rfl, rfl⟩
    rcases run_worked open' stays with ⟨bench, rest⟩
    exact ⟨bench, by rw [rest, entered]⟩
  have closed : left.session = r.session := by
    rcases worked with ⟨bench, rest⟩
    have open' : (opened.run during).session.AtBench bench := by
      rw [rest]
      exact ⟨rfl, rfl⟩
    -- No workbench has been there before.
    have absent : r.session.workbench = none := sound.closed listed
    calc left.session
        = { (opened.run during).session with view := .list, workbench := none } :=
          step_escape open' leave
      _ = { r.session with view := .list, workbench := none } := by rw [rest]
      _ = r.session := by rw [← listed, ← absent]
  refine ⟨?opening, worked, closed, ?again⟩
  case opening =>
    exact ⟨index, _, _, chosen, found, entered, Workbench.open_untouched index _ _⟩
  case again =>
    have back : left.session.view = .list := by rw [closed, listed]
    rw [step_enter back, closed]
    exact (step_enter listed enter).symm

/-- The field is omitted, the fences are dropped, and the file of the forms is removed. -/
def busyVisit : List Step :=
  [.key (.char 'x') {}, .mouse ⟨.down .left, 2, 2⟩, .key (.char 't') {}, .render 0 0, .wait 500,
    .setEditor (some "true"), .key (.char 'q') {}, .changeFiles [(⟨"forms.json"⟩, none)],
    .key (.char 'y') {}, .key .enter {}]

theorem lowerForm_listed :
    (atShelf.run [.render 20 9, .key .down {}]).session.view = .list := by
  decide +kernel

theorem visit_leaves_nothing_busy :
    let r := atShelf.run [.render 20 9, .key .down {}]
    let left := ((r.step (.key .enter {})).run busyVisit).step (.key .escape {})
    r.session.view = .list ∧ (∀ step ∈ busyVisit, step.Stays) ∧
      (∃ bench, ((r.step (.key .enter {})).run busyVisit).session =
        { r.session with view := .builder, workbench := some bench }) ∧
      left.session = r.session ∧
      (left.step (.key .enter {})).session = (r.step (.key .enter {})).session := by
  have stays : ∀ step ∈ busyVisit, step.Stays := by
    simp [busyVisit, Step.Stays]
  have law := visit_leaves_nothing (.explicit ⟨"forms.json"⟩) {} shelf
    [.render 20 9, .key .down {}] busyVisit {} {} {}
  have reached : (start (.explicit ⟨"forms.json"⟩) {} shelf).run
      [.render 20 9, .key .down {}] = atShelf.run [.render 20 9, .key .down {}] := rfl
  rw [reached] at law
  exact ⟨lowerForm_listed, stays, (law lowerForm_listed stays).2⟩

end Running
end FormSnippet
