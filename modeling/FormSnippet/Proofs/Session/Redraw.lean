import FormSnippet.Proofs.Session.Scroll
import FormSnippet.Proofs.Session.Sound

/-!
# Redraw — drawing leaves no trace but windows

Drawing a session moves the windows on its lists and remembers where the list is.  Keys, the
editor, the files and the time never look at any of that: what they do to a session is the same
whether or not it has been drawn.  Only the mouse would find out.

- `Session.unscrolled`        : a session without the places of its windows and of its list
- `Running.step_unscrolled`   : a step of another kind does the same to it
- `Running.run_unscrolled`    : so a run is the run of its other steps
- `Running.rendering_unseen`  : renderings may be left out and put in anywhere
-/

namespace FormSnippet

/-! ## Sessions without their windows -/

/-- The workbench with its window at the beginning. -/
def Workbench.unscrolled (bench : Workbench) : Workbench :=
  { bench with scroll := 0 }

/-- The session with its windows at their beginnings and the list drawn nowhere. -/
def Session.unscrolled (session : Session) : Session :=
  { session with
    scroll := 0
    listArea := .empty
    workbench := session.workbench.map Workbench.unscrolled }

def Running.unscrolled (r : Running) : Running :=
  { r with session := r.session.unscrolled }

/-! ## Keys -/

namespace Workbench

section Keys

variable (bench : Workbench)

theorem unscrolled_selectedField? : bench.unscrolled.selectedField? = bench.selectedField? :=
  rfl

theorem next_unscrolled : bench.unscrolled.next = bench.next.unscrolled := by
  rw [next, next, apply_ite unscrolled]
  rfl

theorem previous_unscrolled : bench.unscrolled.previous = bench.previous.unscrolled := by
  rw [previous, previous, apply_ite unscrolled]
  rfl

theorem toggleOmitted_unscrolled :
    bench.unscrolled.toggleOmitted = bench.toggleOmitted.unscrolled := by
  simp only [toggleOmitted, unscrolled_selectedField?]
  split <;> rfl

theorem patchIncluded_unscrolled (now : Nat) (patch : Field → Patch) :
    bench.unscrolled.patchIncluded now patch = (bench.patchIncluded now patch).unscrolled := by
  simp only [patchIncluded, unscrolled_selectedField?]
  split
  · split <;> rfl
  · rfl

theorem onKey_unscrolled (key : Key) (modifiers : Modifiers) (world : World) :
    bench.unscrolled.onKey key modifiers world =
      (bench.onKey key modifiers world).map unscrolled := by
  unfold onKey
  split
  case h_1 => rfl
  case h_2 | h_3 | h_4 => exact congrArg some bench.next_unscrolled
  case h_5 | h_6 | h_7 => exact congrArg some bench.previous_unscrolled
  case h_8 | h_9 => exact congrArg some bench.toggleOmitted_unscrolled
  case h_10 | h_11 => exact congrArg some (bench.patchIncluded_unscrolled _ _)
  case h_12 => rfl
  case h_13 | h_14 => rfl
  case h_15 => cases modifiers.control <;> rfl
  case h_16 | h_17 => rfl

theorem arrange_unscrolled (width height : Nat) :
    (bench.arrange width height).unscrolled = bench.unscrolled :=
  rfl

theorem arrange_arrange (width height : Nat) :
    (bench.arrange width height).arrange width height = bench.arrange width height := by
  simp only [arrange, fields, scrollTo_scrollTo]

end Keys
end Workbench

namespace Session

section Handlers

variable (session : Session)

theorem moveDown_unscrolled : session.unscrolled.moveDown = session.moveDown.unscrolled := by
  rw [moveDown, moveDown, apply_ite unscrolled]
  rfl

theorem moveUp_unscrolled : session.unscrolled.moveUp = session.moveUp.unscrolled := by
  rw [moveUp, moveUp, apply_ite unscrolled]
  rfl

theorem unscrolled_selected : session.unscrolled.selected = session.selected :=
  rfl

theorem unscrolled_forms : session.unscrolled.forms = session.forms :=
  rfl

theorem openSelected_unscrolled :
    session.unscrolled.openSelected = session.openSelected.unscrolled := by
  simp only [openSelected, unscrolled_selected, unscrolled_forms]
  split
  · rfl
  · split <;> rfl

theorem reload_unscrolled (disk : Disk) (now : Nat) :
    session.unscrolled.reload disk now = (session.reload disk now).map unscrolled id := by
  have same : session.unscrolled.source = session.source := rfl
  simp only [reload, same]
  split <;> rfl

theorem editForms_unscrolled (world : World) :
    session.unscrolled.editForms world = (session.editForms world).map unscrolled id := by
  have same : session.unscrolled.source = session.source := rfl
  simp only [editForms, same, reload_unscrolled]
  split
  · rfl
  · split
    · rfl
    · split <;> rfl

theorem onKeyList_unscrolled (key : Key) (world : World) :
    session.unscrolled.onKeyList key world = (session.onKeyList key world).map unscrolled id := by
  unfold onKeyList
  split
  case h_1 | h_2 => rfl
  case h_3 | h_4 => exact congrArg (·, world) session.moveDown_unscrolled
  case h_5 | h_6 => exact congrArg (·, world) session.moveUp_unscrolled
  case h_7 => exact congrArg (·, world) session.openSelected_unscrolled
  case h_8 => exact session.editForms_unscrolled world
  case h_9 => rfl

theorem onKeyError_unscrolled (key : Key) :
    session.unscrolled.onKeyError key = (session.onKeyError key).unscrolled := by
  unfold onKeyError
  split <;> rfl

theorem onKeyBuilder_unscrolled (key : Key) (modifiers : Modifiers) (world : World) :
    session.unscrolled.onKeyBuilder key modifiers world =
      (session.onKeyBuilder key modifiers world).unscrolled := by
  have held : session.unscrolled.workbench = session.workbench.map Workbench.unscrolled := rfl
  rcases here : session.workbench with _ | bench
  · simp only [onKeyBuilder, held, here, Option.map_none]
  · simp only [onKeyBuilder, held, here, Option.map_some, bench.onKey_unscrolled]
    rcases bench.onKey key modifiers world with _ | bench' <;> rfl

theorem onKey_unscrolled (key : Key) (modifiers : Modifiers) (world : World) :
    session.unscrolled.onKey key modifiers world =
      (session.onKey key modifiers world).map unscrolled id := by
  have seen : session.unscrolled.view = session.view := rfl
  simp only [onKey, seen]
  split
  case h_1 => exact session.onKeyList_unscrolled key world
  case h_2 => exact congrArg (·, world) (session.onKeyBuilder_unscrolled key modifiers world)
  case h_3 => exact congrArg (·, world) (session.onKeyError_unscrolled key)

theorem arrange_unscrolled (width height : Nat) :
    (session.arrange width height).unscrolled = session.unscrolled := by
  unfold arrange
  split
  · rfl
  · simp only [unscrolled, Option.map_map]
    rfl
  · rfl

/-- Drawing a session again for the same screen does not move a window. -/
theorem arrange_arrange (width height : Nat) :
    (session.arrange width height).arrange width height = session.arrange width height := by
  rcases here : session.view with _ | _ | _
  · simp only [arrange, here, scrollTo_scrollTo]
  · rcases held : session.workbench with _ | bench
    · simp only [arrange, here, held, Option.map_none]
    · simp only [arrange, here, held, Option.map_some, bench.arrange_arrange]
  · simp only [arrange, here]

end Handlers

/-- Drawing a session twice for the same screen gives what drawing it once gives. -/
theorem render_render (session : Session) (now width height : Nat) :
    (session.render now width height).1.render now width height =
      session.render now width height := by
  simp only [render, arrange_arrange]

end Session

/-! ## Runs -/

namespace Step

def isRender : Step → Bool
  | .render _ _ => true
  | _ => false

def isMouse : Step → Bool
  | .mouse _ => true
  | _ => false

/-- The steps without the renderings. -/
def undrawn (steps : List Step) : List Step :=
  steps.filter (!·.isRender)

theorem unclicked_of_undrawn {steps steps' : List Step}
    (unclicked : ∀ step ∈ steps, step.isMouse = false) (same : undrawn steps' = undrawn steps) :
    ∀ step ∈ steps', step.isMouse = false := by
  intro step listed
  rcases drawn : step.isRender with _ | _
  · have kept : step ∈ undrawn steps' := List.mem_filter.2 ⟨listed, by rw [drawn]; rfl⟩
    rw [same] at kept
    exact unclicked step (List.mem_filter.1 kept).1
  · cases step with
    | render width height => rfl
    | _ => cases drawn

end Step

namespace Running

theorem render_unscrolled (r : Running) (width height : Nat) :
    (r.step (.render width height)).unscrolled = r.unscrolled := by
  simp only [step, unscrolled, Session.arrange_unscrolled]

/-- The mouse asks where the list is; no other step that is not a rendering does. -/
theorem step_unscrolled (r : Running) {step : Step} (unclicked : step.isMouse = false)
    (undrawn : step.isRender = false) :
    r.unscrolled.step step = (r.step step).unscrolled := by
  cases step with
  | key key modifiers =>
      simp only [Running.step, unscrolled, Session.onKey_unscrolled, Prod.map, id]
  | mouse mouse => cases unclicked
  | render width height => cases undrawn
  | wait milliseconds => rfl
  | setEditor editor => rfl
  | changeFiles changes => rfl
  | changeSystem system => rfl

theorem run_unscrolled (r : Running) {steps : List Step}
    (unclicked : ∀ step ∈ steps, step.isMouse = false) :
    (r.run steps).unscrolled = r.unscrolled.run (Step.undrawn steps) := by
  induction steps generalizing r with
  | nil => rfl
  | cons step steps ih =>
      rcases List.forall_mem_cons.1 unclicked with ⟨first, later⟩
      have rest : ((r.step step).run steps).unscrolled =
          (r.step step).unscrolled.run (Step.undrawn steps) := ih (r.step step) later
      rcases drawn : step.isRender with _ | _
      · have kept : Step.undrawn (step :: steps) = step :: Step.undrawn steps := by
          simp [Step.undrawn, drawn]
        rw [kept]
        calc (r.run (step :: steps)).unscrolled
            = (r.step step).unscrolled.run (Step.undrawn steps) := rest
          _ = (r.unscrolled.step step).run (Step.undrawn steps) := by
              rw [r.step_unscrolled first drawn]
      · -- A rendering is left out, and has changed nothing but windows.
        have skipped : Step.undrawn (step :: steps) = Step.undrawn steps := by
          simp [Step.undrawn, drawn]
        have unseen : (r.step step).unscrolled = r.unscrolled := by
          cases step with
          | render width height => exact r.render_unscrolled width height
          | _ => cases drawn
        rw [skipped, ← unseen]
        exact rest

/-- Two runs without the mouse whose steps differ in renderings only, of whatever sizes and wherever
they stand, end in the same world and, but for the windows and the place of the list, in the same
session.  From there, drawing twice for one screen shows the same and leaves the same as drawing
once. -/
theorem rendering_unseen (r : Running) (steps steps' : List Step)
    (unclicked : ∀ step ∈ steps, step.isMouse = false)
    (same : Step.undrawn steps' = Step.undrawn steps) :
    (r.run steps').unscrolled = (r.run steps).unscrolled ∧
    ∀ width height,
      let drawn := (r.run steps).step (.render width height)
      drawn.step (.render width height) = drawn ∧
        ∀ now, drawn.session.render now width height =
          (r.run steps).session.render now width height := by
  refine ⟨?run, ?again⟩
  case run =>
    have unclicked' := Step.unclicked_of_undrawn unclicked same
    calc (r.run steps').unscrolled
        = r.unscrolled.run (Step.undrawn steps') := r.run_unscrolled unclicked'
      _ = r.unscrolled.run (Step.undrawn steps) := by rw [same]
      _ = (r.run steps).unscrolled := (r.run_unscrolled unclicked).symm
  case again =>
    intro width height drawn
    refine ⟨?_, fun now => (r.run steps).session.render_render now width height⟩
    simp only [drawn, step, Session.arrange_arrange]

/-- The second form is opened after it has been drawn, and its only field is omitted. -/
def drawnVisit : List Step :=
  [.render 40 10, .key .down {}, .render 20 9, .key .enter {}, .render 0 0, .wait 500,
    .key (.char 'x') {}, .setEditor (some "true"), .changeFiles [(⟨"forms.json"⟩, none)]]

/-- The same visit, drawn only on a screen that is too small for anything. -/
def hiddenVisit : List Step :=
  [.key .down {}, .key .enter {}, .wait 500, .render 1 1, .key (.char 'x') {},
    .setEditor (some "true"), .render 1 1, .changeFiles [(⟨"forms.json"⟩, none)]]

theorem rendering_unseen_hidden :
    (∀ step ∈ drawnVisit, step.isMouse = false) ∧
      Step.undrawn hiddenVisit = Step.undrawn drawnVisit ∧
      (atShelf.run hiddenVisit).unscrolled = (atShelf.run drawnVisit).unscrolled := by
  have unclicked : ∀ step ∈ drawnVisit, step.isMouse = false := by
    simp [drawnVisit, Step.isMouse]
  have same : Step.undrawn hiddenVisit = Step.undrawn drawnVisit := rfl
  exact ⟨unclicked, same, (rendering_unseen atShelf drawnVisit hiddenVisit unclicked same).1⟩

end Running
end FormSnippet
