import FormSnippet.Editor.Command
import FormSnippet.Proofs.Form.Usable
import FormSnippet.Proofs.Session.Change

/-!
# Sound — where a session can be

A session keeps what its views show beside the view itself.  In a sound one the two agree: there is a
workbench exactly as long as the builder is shown, and an error message exactly as long as the error
is, which is as long as there are no forms.  Otherwise the selection and the window are on the list
of forms, and the workbench is one for the selected form.  Loading gives a sound session, and every
elementary change keeps it sound.

- `Session.Sound`           : the invariant
- `Session.Sound.change`    : an elementary change keeps it
- `Running.run_sound`       : it holds in every run
- `Running.state_invariant` : what it says of views, selections and windows
-/

namespace FormSnippet

open Relation

namespace Session

/-! ## The invariant -/

structure Sound (session : Session) : Prop where
  distinct : ∀ form ∈ session.forms, form.fieldNames.Nodup
  built : session.view = .builder ↔ session.workbench.isSome = true
  failed : session.view = .error ↔ session.errorMessage.isSome = true
  empty : session.view = .error ↔ session.forms = []
  selected : session.forms ≠ [] →
    ∃ index, session.selected = some index ∧ index < session.forms.length
  scroll : session.forms ≠ [] → session.scroll < session.forms.length
  bench : ∀ bench, session.workbench = some bench →
    session.selected = some bench.formIndex ∧
      ∃ form, session.forms[bench.formIndex]? = some form ∧ bench.Sound form

theorem firstOf_eq_some {forms : List Form} (nonempty : forms ≠ []) : firstOf forms = some 0 := by
  cases forms with
  | nil => exact absurd rfl nonempty
  | cons form rest => rfl

namespace Sound

variable {session session' : Session}

theorem load (source : Source) (defaults : Options) (disk : Disk) :
    (Session.load source defaults disk).1.Sound := by
  unfold Session.load
  split
  · next forms read =>
      have loaded : (source.load disk).result = .ok forms := by rw [read]
      rcases Source.load_ok loaded with ⟨nonempty, distinct⟩
      have room : 0 < forms.length := List.length_pos_iff.2 nonempty
      exact
        { distinct
          built := ⟨nofun, nofun⟩
          failed := ⟨nofun, nofun⟩
          empty := ⟨nofun, fun empty => absurd empty nonempty⟩
          selected := fun _ => ⟨0, firstOf_eq_some nonempty, room⟩
          scroll := fun _ => room
          bench := nofun }
  · exact
      { distinct := nofun
        built := ⟨nofun, nofun⟩
        failed := ⟨fun _ => rfl, fun _ => rfl⟩
        empty := ⟨fun _ => rfl, fun _ => rfl⟩
        selected := fun nonempty => absurd rfl nonempty
        scroll := fun nonempty => absurd rfl nonempty
        bench := nofun }

/-- There is something to select wherever the list is shown. -/
theorem nonempty (sound : session.Sound) (listed : session.view = .list) : session.forms ≠ [] := by
  intro empty
  have failed := sound.empty.2 empty
  rw [listed] at failed
  cases failed

theorem closed (sound : session.Sound) (listed : session.view = .list) :
    session.workbench = none := by
  rw [← Option.not_isSome_iff_eq_none, ← sound.built, listed]
  decide

theorem atBench (sound : session.Sound) {bench : Workbench}
    (here : session.workbench = some bench) : session.AtBench bench where
  built := sound.built.2 (Option.isSome_of_eq_some here)
  here := here

theorem change (sound : session.Sound) (change : session.Change session') : session'.Sound := by
  cases change with
  -- The invariant is not about what these four write.
  | quit _ => exact { sound with }
  | clicked _ => exact { sound with }
  | told _ _ => exact { sound with }
  | stale _ => exact { sound with }
  | selected index listed declared =>
      -- There is no workbench to which the selection would have to fit.
      have closed : session.workbench = none := sound.closed listed
      exact { sound with
        selected := fun _ => ⟨index, rfl, declared⟩
        bench := fun bench here => by
          cases closed.symm.trans here }
  | opened index form listed chosen found =>
      have nonempty : session.forms ≠ [] := sound.nonempty listed
      have silent : ¬ session.errorMessage.isSome = true := by
        rw [← sound.failed, listed]
        decide
      -- The form that is opened is the selected one.
      exact { sound with
        built := ⟨fun _ => rfl, fun _ => rfl⟩
        failed := ⟨nofun, fun told => absurd told silent⟩
        empty := ⟨nofun, fun empty => absurd empty nonempty⟩
        bench := by
          rintro bench ⟨⟩
          exact ⟨chosen, form, found, .open index form session.defaults⟩ }
  | worked bench bench' open' change =>
      rcases sound.bench bench open'.here with ⟨chosen, form, found, fit⟩
      exact { sound with
        built := ⟨fun _ => rfl, fun _ => open'.built⟩
        bench := by
          rintro _ ⟨⟩
          rw [change.formIndex]
          exact ⟨chosen, form, found, fit.change change⟩ }
  | closed built =>
      have unfailed : session.view ≠ .error := by
        rw [built]
        decide
      exact { sound with
        built := ⟨nofun, nofun⟩
        failed := ⟨nofun, fun told => absurd (sound.failed.2 told) unfailed⟩
        empty := ⟨nofun, fun empty => absurd (sound.empty.2 empty) unfailed⟩
        bench := nofun }
  | reloaded forms listed loaded =>
      rcases loaded with ⟨disk, loaded⟩
      rcases Source.load_ok loaded with ⟨nonempty, distinct⟩
      have room : 0 < forms.length := List.length_pos_iff.2 nonempty
      -- The list is shown, so there is no workbench for a form that is replaced.
      have closed : session.workbench = none := sound.closed listed
      have unfailed : session.view ≠ .error := by
        rw [listed]
        decide
      exact { sound with
        distinct
        empty := ⟨fun failed => absurd failed unfailed, fun empty => absurd empty nonempty⟩
        selected := fun _ => ⟨0, firstOf_eq_some nonempty, room⟩
        scroll := fun _ => room
        bench := fun bench here => by
          cases closed.symm.trans here }
  | arranged area listed =>
      have shown (nonempty : session.forms ≠ []) :
          scrollTo session.scroll (session.selected.getD 0) session.forms.length area.height <
            session.forms.length := by
        rcases sound.selected nonempty with ⟨index, chosen, declared⟩
        rw [chosen]
        exact scrollTo_lt declared
      exact { sound with scroll := shown }

theorem changes (sound : session.Sound) (changes : session.Changes session') : session'.Sound := by
  induction changes with
  | refl => exact sound
  | tail _ change ih => exact ih.change change

end Sound

/-! ## What stays -/

/-- A session fails at the beginning or not at all. -/
theorem Change.errorMessage {session session' : Session} (change : session.Change session') :
    session'.errorMessage = session.errorMessage := by
  cases change <;> rfl

theorem Change.shouldQuit {session session' : Session} (change : session.Change session')
    (quit : session.shouldQuit = true) : session'.shouldQuit = true := by
  cases change with
  | quit _ => rfl
  | _ => exact quit

theorem Changes.errorMessage {session session' : Session} (changes : session.Changes session') :
    session'.errorMessage = session.errorMessage := by
  induction changes with
  | refl => rfl
  | tail _ change ih => exact change.errorMessage.trans ih

theorem Changes.shouldQuit {session session' : Session} (changes : session.Changes session')
    (quit : session.shouldQuit = true) : session'.shouldQuit = true := by
  induction changes with
  | refl => exact quit
  | tail _ change ih => exact change.shouldQuit ih

/-- The error that a session begins with is that of loading the forms. -/
theorem load_errorMessage (source : Source) (defaults : Options) (disk : Disk) :
    (load source defaults disk).1.errorMessage.isSome = true ↔
      ∃ error, (source.load disk).result = .error error := by
  unfold load
  split
  · next forms read =>
      rw [read]
      exact ⟨nofun, nofun⟩
  · next error read =>
      rw [read]
      exact ⟨fun _ => ⟨error, rfl⟩, fun _ => rfl⟩

end Session

/-! ## Runs -/

namespace Running

theorem run_sound (source : Source) (defaults : Options) (world : World) (steps : List Step) :
    ((start source defaults world).run steps).session.Sound :=
  (Session.Sound.load source defaults world.disk).changes
    (run_changes (start source defaults world) steps)

/-- In every run the views agree with what is beside them: the builder is shown exactly with a
workbench, and the error exactly with a message, which is the case if the first load has failed and
if there are no forms.  What is selected and where a window begins is on its list, an open workbench
is for the selected form, and a session that is to end stays so. -/
theorem state_invariant (source : Source) (defaults : Options) (world : World)
    (steps more : List Step) :
    let r := (start source defaults world).run steps
    let session := r.session
    (session.view = .builder ↔ session.workbench.isSome = true) ∧
    (session.view = .error ↔ ∃ error, (source.load world.disk).result = .error error) ∧
    (session.view = .error ↔ session.forms = []) ∧
    (session.view = .error ↔ session.errorMessage.isSome = true) ∧
    (session.forms ≠ [] → ∃ index, session.selected = some index ∧
      index < session.forms.length ∧ session.scroll < session.forms.length) ∧
    (∀ bench, session.workbench = some bench →
      session.selected = some bench.formIndex ∧
      Within bench.selected bench.fields.length ∧ Within bench.scroll bench.fields.length) ∧
    (session.shouldQuit = true → (r.run more).session.shouldQuit = true) := by
  intro r session
  have sound : session.Sound := run_sound source defaults world steps
  -- No change makes an error or takes it away, so it is that of the first load.
  have kept : session.errorMessage = (Session.load source defaults world.disk).1.errorMessage :=
    (run_changes (start source defaults world) steps).errorMessage
  refine ⟨sound.built, ?loaded, sound.empty, sound.failed, ?places, ?bench, ?quit⟩
  case loaded =>
    rw [sound.failed, kept]
    exact Session.load_errorMessage source defaults world.disk
  case places =>
    intro nonempty
    rcases sound.selected nonempty with ⟨index, chosen, declared⟩
    exact ⟨index, chosen, declared, sound.scroll nonempty⟩
  case bench =>
    intro bench here
    rcases sound.bench bench here with ⟨chosen, form, -, fit⟩
    rw [fit.length]
    exact ⟨chosen, fit.selected, fit.scroll⟩
  case quit =>
    intro quit
    exact (run_changes r more).shouldQuit quit

/-- A world with one file, which declares two forms. -/
def shelf : World :=
  { disk := { entries := [(["forms.json"], .file "[[\"A\"],[\"B\",null,[[\"x\"]]]]".toUTF8)] }
    editor := none
    clipboardFailure := none
    now := 0
    system := Editor.installed }

def atShelf : Running :=
  start (.explicit ⟨"forms.json"⟩) {} shelf

/-- The second form is opened after the key that ends the session. -/
def lateKeys : List Step :=
  [.render 20 9, .key (.char 'q') {}, .key .down {}, .key .enter {}, .key .up {}]

def lateVisit : Running :=
  atShelf.run lateKeys

theorem lateVisit_reaches :
    lateVisit.session.forms.isEmpty = false ∧ lateVisit.session.workbench.isSome = true ∧
      lateVisit.session.shouldQuit = true := by
  decide +kernel

theorem state_invariant_lateVisit :
    (lateVisit.session.forms ≠ [] ∧ ∃ index, lateVisit.session.selected = some index ∧
      index < lateVisit.session.forms.length ∧
      lateVisit.session.scroll < lateVisit.session.forms.length) ∧
    (∃ bench, lateVisit.session.workbench = some bench ∧
      lateVisit.session.selected = some bench.formIndex ∧
      Within bench.selected bench.fields.length ∧ Within bench.scroll bench.fields.length) ∧
    (lateVisit.session.shouldQuit = true ∧
      (lateVisit.run [.key .escape {}, .key .up {}]).session.shouldQuit = true) := by
  rcases lateVisit_reaches with ⟨loaded, shown, quit⟩
  have nonempty : lateVisit.session.forms ≠ [] := by
    intro empty
    rw [empty] at loaded
    cases loaded
  rcases Option.isSome_iff_exists.1 shown with ⟨bench, here⟩
  have invariant := state_invariant (.explicit ⟨"forms.json"⟩) {} shelf lateKeys
    [.key .escape {}, .key .up {}]
  have reached : (start (.explicit ⟨"forms.json"⟩) {} shelf).run lateKeys = lateVisit := rfl
  rw [reached] at invariant
  rcases invariant with ⟨-, -, -, -, places, chosen, stays⟩
  exact ⟨⟨nonempty, places nonempty⟩, ⟨bench, here, chosen bench here⟩, quit, stays quit⟩

end Running
end FormSnippet
