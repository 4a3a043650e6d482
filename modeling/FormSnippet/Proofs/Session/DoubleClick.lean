import FormSnippet.Proofs.Session.Visit

/-!
# DoubleClick — which clicks open a form

A click on an entry of the list opens its form if the one before it was on the same place of the
list, not long ago.  The one before it is remembered until the next, whatever else happens: closing
the form that it has opened does not make a session forget it, nor do other forms in the list.

- `Running.landing?`          : the entry that a step clicks on
- `Running.LastLanding`       : the last click on an entry in a run
- `Running.run_lastClick`     : a session remembers that click, and no other
- `Running.mouse_opens_iff`   : when the mouse opens a form, in every run
- `Running.click_opens_again` : a click that belongs to two double clicks
-/

namespace FormSnippet

/-! ## What is remembered -/

namespace Session

/-- The entry of the list that a mouse event clicks on. -/
def landing? (session : Session) (mouse : Mouse) : Option Nat :=
  match session.view with
  | .list => if mouse.action = .down .left then session.entryAt? mouse else none
  | _ => none

section Landing

variable {session : Session} {mouse : Mouse} {index : Nat}

theorem landing?_eq_some : session.landing? mouse = some index ↔
    session.view = .list ∧ mouse.action = .down .left ∧ session.entryAt? mouse = some index := by
  rcases here : session.view with _ | _ | _
  · rw [landing?, here]
    by_cases left : mouse.action = .down .left
    · simp [left]
    · simp [left]
  · simp [landing?, here]
  · simp [landing?, here]

/-- The mouse does nothing but click on entries. -/
theorem onMouse_eq (session : Session) (mouse : Mouse) (now : Nat) :
    session.onMouse mouse now =
      match session.landing? mouse with
      | some index => session.click index now
      | none => session := by
  rcases here : session.view with _ | _ | _
  · simp only [onMouse, landing?, here]
    split <;> rfl
  · simp only [onMouse, landing?, here]
  · simp only [onMouse, landing?, here]

end Landing

/-- The forms and the remembered click are the same. -/
structure Kept (session session' : Session) : Prop where
  forms : session'.forms = session.forms
  lastClick : session'.lastClick = session.lastClick

section Handlers

variable (session : Session)

theorem moveDown_kept : session.Kept session.moveDown := by
  rw [moveDown]
  split <;> exact ⟨rfl, rfl⟩

theorem moveUp_kept : session.Kept session.moveUp := by
  rw [moveUp]
  split <;> exact ⟨rfl, rfl⟩

theorem openSelected_kept : session.Kept session.openSelected := by
  rw [openSelected]
  split
  · exact ⟨rfl, rfl⟩
  · split <;> exact ⟨rfl, rfl⟩

/-- The forms may be other ones after an edit; the click is still remembered. -/
theorem editForms_lastClick (world : World) :
    (session.editForms world).1.lastClick = session.lastClick := by
  have reloaded (disk : Disk) (now : Nat) :
      (session.reload disk now).1.lastClick = session.lastClick := by
    unfold reload
    dsimp only
    split <;> rfl
  unfold editForms
  split
  · rfl
  · split
    · rfl
    · dsimp only
      split
      · rfl
      · exact reloaded _ world.now

theorem onKeyList_kept {key : Key} (other : key ≠ .char 'e') (world : World) :
    session.Kept (session.onKeyList key world).1 := by
  unfold onKeyList
  split
  case h_1 | h_2 => exact ⟨rfl, rfl⟩
  case h_3 | h_4 => exact session.moveDown_kept
  case h_5 | h_6 => exact session.moveUp_kept
  case h_7 => exact session.openSelected_kept
  case h_8 => exact absurd rfl other
  case h_9 => exact ⟨rfl, rfl⟩

theorem onKeyBuilder_kept (key : Key) (modifiers : Modifiers) (world : World) :
    session.Kept (session.onKeyBuilder key modifiers world) := by
  unfold onKeyBuilder
  split
  · exact ⟨rfl, rfl⟩
  · split <;> exact ⟨rfl, rfl⟩

theorem onKeyError_kept (key : Key) : session.Kept (session.onKeyError key) := by
  unfold onKeyError
  split <;> exact ⟨rfl, rfl⟩

theorem onKey_kept {key : Key} (other : key ≠ .char 'e') (modifiers : Modifiers) (world : World) :
    session.Kept (session.onKey key modifiers world).1 := by
  unfold onKey
  split
  case h_1 => exact session.onKeyList_kept other world
  case h_2 => exact session.onKeyBuilder_kept key modifiers world
  case h_3 => exact session.onKeyError_kept key

theorem onKey_lastClick (key : Key) (modifiers : Modifiers) (world : World) :
    (session.onKey key modifiers world).1.lastClick = session.lastClick := by
  by_cases edit : key = .char 'e'
  · unfold onKey
    split
    case h_1 =>
      rw [edit]
      exact session.editForms_lastClick world
    case h_2 => exact (session.onKeyBuilder_kept key modifiers world).lastClick
    case h_3 => exact (session.onKeyError_kept key).lastClick
  · exact (session.onKey_kept edit modifiers world).lastClick

theorem arrange_kept (width height : Nat) : session.Kept (session.arrange width height) := by
  unfold arrange
  split <;> exact ⟨rfl, rfl⟩

theorem click_forms (index now : Nat) : (session.click index now).forms = session.forms := by
  unfold click
  dsimp only
  split
  · exact (openSelected_kept _).forms
  · rfl

/-- A click opens the form that it is on, if the remembered click allows it. -/
theorem click_workbench (closed : session.workbench = none) (index now : Nat)
    {bench : Workbench} :
    (session.click index now).workbench = some bench ↔
      isDoubleClick session.lastClick index now = true ∧
        ∃ form, session.forms[index]? = some form ∧
          bench = .open index form session.defaults := by
  rcases double : isDoubleClick session.lastClick index now with _ | _
  · simp [click, double, closed]
  · rcases found : session.forms[index]? with _ | form
    · simp [click, double, openSelected, found, closed]
    · simp [click, double, openSelected, found, eq_comm]

theorem isDoubleClick_iff {lastClick : Option Click} {index now : Nat} :
    isDoubleClick lastClick index now = true ↔
      ∃ time, lastClick = some ⟨index, time⟩ ∧ now ≤ time + 400 := by
  rcases lastClick with _ | ⟨place, time⟩
  · simp [isDoubleClick]
  · simp [isDoubleClick]
    omega

end Handlers
end Session

/-! ## Clicks in a run -/

namespace Running

/-- The entry of the list that a step clicks on. -/
def landing? (r : Running) : Step → Option Nat
  | .mouse mouse => r.session.landing? mouse
  | _ => none

/-- With no form open before, the step opens this workbench. -/
structure Opens (r : Running) (step : Step) (bench : Workbench) : Prop where
  closed : r.session.workbench = none
  opened : (r.step step).session.workbench = some bench

/-- Of these steps, the one after `before` is the last that clicks on an entry. -/
structure LastLanding (r : Running) (steps before : List Step) (step : Step) (index : Nat) :
    Prop where
  landed : (r.run before).landing? step = some index
  last : ∃ after, steps = before ++ step :: after ∧
    ∀ between next rest, after = between ++ next :: rest →
      (r.run (before ++ step :: between)).landing? next = none

theorem run_concat (r : Running) (steps : List Step) (step : Step) :
    r.run (steps ++ [step]) = (r.run steps).step step := by
  rw [run, List.foldl_concat]
  rfl

theorem step_lastClick (r : Running) (step : Step) :
    (r.step step).session.lastClick =
      match r.landing? step with
      | some index => some ⟨index, r.world.now⟩
      | none => r.session.lastClick := by
  cases step with
  | key key modifiers => exact r.session.onKey_lastClick key modifiers r.world
  | mouse mouse =>
      simp only [step, landing?, Session.onMouse_eq]
      split <;> rfl
  | render width height => exact (r.session.arrange_kept width height).lastClick
  | wait milliseconds => rfl
  | setEditor editor => rfl
  | changeFiles changes => rfl
  | changeSystem system => rfl

section LastLanding

variable {r : Running} {steps before : List Step} {step next : Step} {index : Nat}

/-- One step more is the last click on an entry, or clicks on none. -/
theorem lastLanding_concat : r.LastLanding (steps ++ [next]) before step index ↔
    ((r.run steps).landing? next = some index ∧ before = steps ∧ step = next) ∨
      ((r.run steps).landing? next = none ∧ r.LastLanding steps before step index) := by
  constructor
  · rintro ⟨landed, after, split, last⟩
    -- The last click is the step that has been added, or that step is one of those behind it.
    rcases List.eq_nil_or_concat' after with rfl | ⟨between, final, rfl⟩
    · rcases List.append_inj' split rfl with ⟨rfl, same⟩
      cases same
      exact .inl ⟨landed, rfl, rfl⟩
    · rw [← List.cons_append, ← List.append_assoc] at split
      rcases List.append_inj' split rfl with ⟨rfl, same⟩
      cases same
      refine .inr ⟨last between next [] rfl, landed, between, rfl, ?_⟩
      rintro between' next' rest rfl
      exact last between' next' (rest ++ [next]) (by simp)
  · rintro (⟨landed, rfl, rfl⟩ | ⟨quiet, landed, after, rfl, last⟩)
    · refine ⟨landed, [], rfl, ?_⟩
      intro between next rest split
      simp at split
    · refine ⟨landed, after ++ [next], by simp, ?_⟩
      intro between next' rest split
      rcases List.eq_nil_or_concat' rest with rfl | ⟨rest, final, rfl⟩
      · rcases List.append_inj' split rfl with ⟨rfl, same⟩
        cases same
        exact quiet
      · rw [← List.cons_append, ← List.append_assoc] at split
        exact last between next' rest (List.append_inj' split rfl).1

/-- What is remembered is the last click on an entry, whatever has come of it. -/
theorem run_lastClick (fresh : r.session.lastClick = none) (steps : List Step) {click : Click} :
    (r.run steps).session.lastClick = some click ↔
      ∃ before step, r.LastLanding steps before step click.index ∧
        (r.run before).world.now = click.time := by
  -- On the steps from their end: each click on an entry replaces the one before.
  induction steps using List.reverseRecOn with
  | nil =>
      have forgotten : (r.run []).session.lastClick = none := fresh
      rw [forgotten]
      refine ⟨nofun, ?_⟩
      rintro ⟨before, step, ⟨-, after, split, -⟩, -⟩
      simp at split
  | append_singleton steps next ih =>
      rw [run_concat, step_lastClick]
      simp only [lastLanding_concat]
      rcases landed : (r.run steps).landing? next with _ | index
      · simpa using ih
      · constructor
        · rintro ⟨⟩
          exact ⟨steps, next, .inl ⟨rfl, rfl, rfl⟩, rfl⟩
        · rintro ⟨before, step, ⟨same, rfl, rfl⟩ | ⟨quiet, -⟩, time⟩
          · cases same
            rw [time]
          · cases quiet

end LastLanding
end Running

/-! ## The forms in a run -/

/-- The step may hand the forms file to the editor. -/
def Step.Edits : Step → Prop
  | .key pressed _ => pressed = .char 'e'
  | _ => False

namespace Running

theorem step_forms (r : Running) {step : Step} (unedited : ¬ step.Edits) :
    (r.step step).session.forms = r.session.forms := by
  cases step with
  | key key modifiers => exact (r.session.onKey_kept unedited modifiers r.world).forms
  | mouse mouse =>
      simp only [step, Session.onMouse_eq]
      split
      · exact r.session.click_forms _ _
      · rfl
  | render width height => exact (r.session.arrange_kept width height).forms
  | wait milliseconds => rfl
  | setEditor editor => rfl
  | changeFiles changes => rfl
  | changeSystem system => rfl

theorem run_forms (r : Running) {steps : List Step} (unedited : ∀ step ∈ steps, ¬ step.Edits) :
    (r.run steps).session.forms = r.session.forms := by
  induction steps generalizing r with
  | nil => rfl
  | cons step steps ih =>
      rcases List.forall_mem_cons.1 unedited with ⟨first, later⟩
      calc (r.run (step :: steps)).session.forms
          = (r.step step).session.forms := ih (r.step step) later
        _ = r.session.forms := r.step_forms first

/-! ## Double clicks -/

/-- The mouse opens a workbench by a click that makes a double click with the remembered one. -/
theorem opens_mouse_iff {r : Running} (sound : r.session.Sound) {mouse : Mouse}
    {bench : Workbench} :
    r.Opens (.mouse mouse) bench ↔
      ∃ index form time,
        r.session.landing? mouse = some index ∧
        r.session.forms[index]? = some form ∧
        bench = .open index form r.session.defaults ∧
        r.session.lastClick = some ⟨index, time⟩ ∧ r.world.now ≤ time + 400 := by
  have clicked {index : Nat} (landed : r.session.landing? mouse = some index) :
      (r.step (.mouse mouse)).session = r.session.click index r.world.now := by
    simp only [step, Session.onMouse_eq, landed]
  constructor
  · rintro ⟨closed, opened⟩
    rcases landed : r.session.landing? mouse with _ | index
    · have unchanged : (r.step (.mouse mouse)).session = r.session := by
        simp only [step, Session.onMouse_eq, landed]
      rw [unchanged, closed] at opened
      cases opened
    · rw [clicked landed, Session.click_workbench _ closed, Session.isDoubleClick_iff] at opened
      rcases opened with ⟨⟨time, remembered, soon⟩, form, found, same⟩
      exact ⟨index, form, time, rfl, found, same, remembered, soon⟩
  · rintro ⟨index, form, time, landed, found, same, remembered, soon⟩
    have listed : r.session.view = .list := (Session.landing?_eq_some.1 landed).1
    have closed : r.session.workbench = none := sound.closed listed
    refine ⟨closed, ?_⟩
    rw [clicked landed, Session.click_workbench _ closed, Session.isDoubleClick_iff]
    exact ⟨⟨time, remembered, soon⟩, form, found, same⟩

/-- In every run, the mouse opens a workbench exactly by a click on an entry of the list for which
the last click on an entry was on the same place of the list, at most 400 ms before; the workbench
is that of the form which is now at this place.  It is the form that was there at the last click,
unless the forms file has been edited since then. -/
theorem mouse_opens_iff (source : Source) (defaults : Options) (world : World)
    (steps : List Step) (mouse : Mouse) (bench : Workbench) :
    let began := start source defaults world
    let r := began.run steps
    (r.Opens (.mouse mouse) bench ↔
      ∃ index form before click,
        r.session.landing? mouse = some index ∧
        r.session.forms[index]? = some form ∧
        bench = .open index form r.session.defaults ∧
        began.LastLanding steps before click index ∧
        r.world.now ≤ (began.run before).world.now + 400) ∧
    ∀ before after, steps = before ++ after → (∀ step ∈ after, ¬ step.Edits) →
      r.session.forms = (began.run before).session.forms := by
  intro began r
  have fresh : began.session.lastClick = none := by
    simp only [began, start, Session.load]
    split <;> rfl
  refine ⟨?opens, ?forms⟩
  case opens =>
    rw [opens_mouse_iff (run_sound source defaults world steps)]
    constructor
    · rintro ⟨index, form, time, landed, found, same, remembered, soon⟩
      rcases (run_lastClick fresh steps).1 remembered with ⟨before, click, last, rfl⟩
      exact ⟨index, form, before, click, landed, found, same, last, soon⟩
    · rintro ⟨index, form, before, click, landed, found, same, last, soon⟩
      have remembered : r.session.lastClick = some ⟨index, (began.run before).world.now⟩ :=
        (run_lastClick fresh steps).2 ⟨before, click, last, rfl⟩
      exact ⟨index, form, _, landed, found, same, remembered, soon⟩
  case forms =>
    rintro before after rfl unedited
    have split : r = (began.run before).run after := List.foldl_append
    rw [split]
    exact run_forms _ unedited

def firstEntry : Mouse :=
  ⟨.down .left, 5, 1⟩

/-- The list is drawn, and the first form is clicked on. -/
def clickedOnce : List Step :=
  [.render 40 10] ++ [.mouse firstEntry]

theorem clickedOnce_reaches :
    (atShelf.run [.render 40 10]).session.landing? firstEntry = some 0 ∧
      (atShelf.run clickedOnce).session.landing? firstEntry = some 0 ∧
      ((atShelf.run clickedOnce).session.forms[0]?).isSome = true ∧
      (atShelf.run clickedOnce).world.now ≤ (atShelf.run [.render 40 10]).world.now + 400 := by
  decide +kernel

theorem mouse_opens_iff_clickedOnce :
    (∃ bench, (atShelf.run clickedOnce).Opens (.mouse firstEntry) bench) ∧
      (∀ step ∈ [Step.mouse firstEntry], ¬ step.Edits) ∧
      (atShelf.run clickedOnce).session.forms = (atShelf.run [.render 40 10]).session.forms := by
  rcases clickedOnce_reaches with ⟨landed, again, declared, soon⟩
  rcases Option.isSome_iff_exists.1 declared with ⟨form, found⟩
  have last : atShelf.LastLanding clickedOnce [.render 40 10] (.mouse firstEntry) 0 :=
    lastLanding_concat.2 (.inl ⟨landed, rfl, rfl⟩)
  have unedited : ∀ step ∈ [Step.mouse firstEntry], ¬ step.Edits := by
    simp [Step.Edits]
  have law := mouse_opens_iff (.explicit ⟨"forms.json"⟩) {} shelf clickedOnce firstEntry
    (.open 0 form (atShelf.run clickedOnce).session.defaults)
  have reached : start (.explicit ⟨"forms.json"⟩) {} shelf = atShelf := rfl
  rw [reached] at law
  rcases law with ⟨opens, same⟩
  exact ⟨⟨_, opens.2 ⟨0, form, [.render 40 10], .mouse firstEntry, again, found, rfl, last, soon⟩⟩,
    unedited, same [.render 40 10] [.mouse firstEntry] rfl unedited⟩

/-- The first form is opened by a double click, and closed. -/
def returned : List Step :=
  clickedOnce ++ [.mouse firstEntry] ++ [.key .escape {}]

theorem returned_reaches :
    ((atShelf.run clickedOnce).session.workbench.isNone = true ∧
      ((atShelf.run clickedOnce).step (.mouse firstEntry)).session.workbench.isSome = true) ∧
    (atShelf.run returned).session.workbench.isNone = true ∧
      ((atShelf.run returned).step (.mouse firstEntry)).session.workbench.isSome = true := by
  decide +kernel

theorem opens_of_reaches {r : Running} {step : Step}
    (closed : r.session.workbench.isNone = true)
    (opened : (r.step step).session.workbench.isSome = true) : ∃ bench, r.Opens step bench := by
  rcases Option.isSome_iff_exists.1 opened with ⟨bench, opened⟩
  exact ⟨bench, Option.isNone_iff_eq_none.1 closed, opened⟩

/-- The last click before the form is closed has opened it, and a single click opens it again. -/
theorem click_opens_again :
    (∃ bench, (atShelf.run clickedOnce).Opens (.mouse firstEntry) bench) ∧
      atShelf.LastLanding returned clickedOnce (.mouse firstEntry) 0 ∧
      ∃ bench, (atShelf.run returned).Opens (.mouse firstEntry) bench := by
  rcases returned_reaches with ⟨⟨closed, opened⟩, closed', opened'⟩
  refine ⟨opens_of_reaches closed opened, ?_, opens_of_reaches closed' opened'⟩
  exact lastLanding_concat.2
    (.inr ⟨rfl, lastLanding_concat.2 (.inl ⟨clickedOnce_reaches.2.1, rfl, rfl⟩)⟩)

end Running
end FormSnippet
