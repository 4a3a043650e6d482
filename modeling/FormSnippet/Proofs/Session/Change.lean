import FormSnippet.Proofs.Session.Bench
import FormSnippet.Session.Run
import Mathlib.Logic.Relation

/-!
# Change — what can become of a session

A session is written by keys, by clicks, by rendering, and by what the editor leaves.  All of them
come down to a few elementary changes, each with its guard; a key or a click makes one after the
other.  Whatever the changes keep is kept by every run.

- `Session.Change`          : the elementary changes
- `Session.Changes`         : one after the other
- `Running.step_changes`    : a step of a run comes down to them
- `Running.run_changes`     : so does a whole run
-/

namespace FormSnippet

open Relation

namespace Session

/-! ## Elementary changes -/

/-- The builder is shown, with this workbench. -/
structure AtBench (session : Session) (bench : Workbench) : Prop where
  built : session.view = .builder
  here : session.workbench = some bench

theorem AtBench.eq {session : Session} {bench : Workbench} (open' : session.AtBench bench) :
    session = { session with workbench := some bench } := by
  rw [← open'.here]

theorem AtBench.arrange_eq {session : Session} {bench : Workbench}
    (open' : session.AtBench bench) (width height : Nat) :
    session.arrange width height =
      { session with workbench := some (bench.arrange width height) } := by
  simp only [arrange, open'.built, open'.here, Option.map_some]

inductive Change (session : Session) : Session → Prop
  | quit (closed : session.view ≠ .builder) : Change session { session with shouldQuit := true }
  | selected (index : Nat) (listed : session.view = .list)
      (declared : index < session.forms.length) :
      Change session { session with selected := some index }
  | clicked (click : Click) : Change session { session with lastClick := some click }
  | opened (index : Nat) (form : Form) (listed : session.view = .list)
      (chosen : session.selected = some index) (found : session.forms[index]? = some form) :
      Change session
        { session with
          workbench := some (.open index form session.defaults)
          view := .builder }
  | worked (bench bench' : Workbench) (open' : session.AtBench bench)
      (change : bench.Change bench') : Change session { session with workbench := some bench' }
  | closed (built : session.view = .builder) :
      Change session { session with workbench := none, view := .list }
  | told (status : Status) (listed : session.view = .list) :
      Change session { session with status := some status }
  | stale (listed : session.view = .list) : Change session { session with needsRedraw := true }
  | reloaded (forms : List Form) (listed : session.view = .list)
      (loaded : ∃ disk, (session.source.load disk).result = .ok forms) :
      Change session { session with forms, selected := firstOf forms, scroll := 0 }
  | arranged (area : Screen.Area) (listed : session.view = .list) :
      Change session
        { session with
          listArea := area
          scroll :=
            scrollTo session.scroll (session.selected.getD 0) session.forms.length area.height }

/-- Elementary changes one after the other. -/
abbrev Changes : Session → Session → Prop :=
  ReflTransGen Change

section Handlers

variable {session : Session}

/-! ## The list -/

theorem moveDown_changes (listed : session.view = .list) : session.Changes session.moveDown := by
  rw [moveDown]
  split
  · exact .refl
  · next nonempty =>
      have room : 0 < session.forms.length := by
        simpa [List.isEmpty_iff, List.length_pos_iff] using nonempty
      exact .single (.selected _ listed (by omega))

theorem moveUp_changes (listed : session.view = .list) : session.Changes session.moveUp := by
  rw [moveUp]
  split
  · exact .refl
  · next nonempty =>
      have room : 0 < session.forms.length := by
        simpa [List.isEmpty_iff, List.length_pos_iff] using nonempty
      exact .single (.selected _ listed (by omega))

theorem openSelected_changes (listed : session.view = .list) :
    session.Changes session.openSelected := by
  rw [openSelected]
  split
  · exact .refl
  · next index chosen =>
      split
      · exact .refl
      · next form found => exact .single (.opened index form listed chosen found)

/-- A click selects its entry, perhaps opens it, and is remembered. -/
theorem click_changes (listed : session.view = .list) {index : Nat}
    (declared : index < session.forms.length) (now : Nat) :
    session.Changes (session.click index now) := by
  have selected : session.Changes { session with selected := some index } :=
    .single (.selected index listed declared)
  unfold click
  dsimp only
  split
  · exact (selected.trans (openSelected_changes listed)).tail (.clicked _)
  · exact selected.tail (.clicked _)

theorem entryAt?_eq_some {mouse : Mouse} {index : Nat} :
    session.entryAt? mouse = some index ↔
      session.listArea.contains mouse.column mouse.row = true ∧
        index = session.scroll + (mouse.row - session.listArea.y) ∧
        index < session.forms.length := by
  rw [entryAt?]
  split
  · next inside =>
      dsimp only
      split
      · next listed =>
          constructor
          · intro hit
            obtain rfl := Option.some.inj hit
            exact ⟨inside, rfl, listed⟩
          · rintro ⟨-, rfl, -⟩
            rfl
      · next beyond =>
          refine ⟨nofun, ?_⟩
          rintro ⟨-, rfl, listed⟩
          exact absurd listed beyond
  · next outside =>
      refine ⟨nofun, ?_⟩
      rintro ⟨inside, -⟩
      exact absurd inside outside

theorem entryAt?_lt {mouse : Mouse} {index : Nat} (hit : session.entryAt? mouse = some index) :
    index < session.forms.length :=
  (entryAt?_eq_some.1 hit).2.2

theorem onMouse_changes (mouse : Mouse) (now : Nat) :
    session.Changes (session.onMouse mouse now) := by
  -- Only a left click on an entry of the list does anything.
  unfold onMouse
  split
  · next listed =>
      split
      · split
        · next index hit => exact click_changes listed (entryAt?_lt hit) now
        · exact .refl
      · exact .refl
  · exact .refl

/-! ## The editor -/

theorem reload_changes (listed : session.view = .list) (disk : Disk) (now : Nat) :
    session.Changes (session.reload disk now).1 := by
  have stale : session.Changes { session with needsRedraw := true } := .single (.stale listed)
  unfold reload
  dsimp only
  split
  · next forms read =>
      have loaded : (session.source.load disk).result = .ok forms := by rw [read]
      exact stale.tail (.reloaded forms listed ⟨disk, loaded⟩)
  · exact stale.tail (.told _ listed)

theorem editForms_changes (listed : session.view = .list) (world : World) :
    session.Changes (session.editForms world).1 := by
  have told (text : String) : session.Changes (session.withStatus text world.now) :=
    .single (.told _ listed)
  -- Until the editor has ended well, nothing is left but a message.
  unfold editForms
  split
  · exact told _
  · split
    · exact told _
    · dsimp only
      split
      · exact told _
      · exact reload_changes listed _ world.now

/-! ## Keys -/

theorem onKeyList_changes (listed : session.view = .list) (key : Key) (world : World) :
    session.Changes (session.onKeyList key world).1 := by
  have closed : session.view ≠ .builder := by
    rw [listed]
    decide
  unfold onKeyList
  split
  case h_1 | h_2 => exact .single (.quit closed)
  case h_3 | h_4 => exact moveDown_changes listed
  case h_5 | h_6 => exact moveUp_changes listed
  case h_7 => exact openSelected_changes listed
  case h_8 => exact editForms_changes listed world
  case h_9 => exact .refl

theorem onKeyError_changes (failed : session.view = .error) (key : Key) :
    session.Changes (session.onKeyError key) := by
  have closed : session.view ≠ .builder := by
    rw [failed]
    decide
  unfold onKeyError
  split
  case h_1 | h_2 => exact .single (.quit closed)
  case h_3 => exact .refl

/-- A workbench takes the key, or it is closed by it. -/
theorem onKeyBuilder_changes (built : session.view = .builder) (key : Key)
    (modifiers : Modifiers) (world : World) :
    session.Changes (session.onKeyBuilder key modifiers world) := by
  unfold onKeyBuilder
  split
  · exact .refl
  · next bench here =>
      split
      · next bench' pressed =>
          exact .single (.worked bench bench' ⟨built, here⟩ (bench.onKey_change pressed))
      · exact .single (.closed built)

theorem onKey_changes (key : Key) (modifiers : Modifiers) (world : World) :
    session.Changes (session.onKey key modifiers world).1 := by
  unfold onKey
  split
  case h_1 listed => exact onKeyList_changes listed key world
  case h_2 built => exact onKeyBuilder_changes built key modifiers world
  case h_3 failed => exact onKeyError_changes failed key

/-! ## Rendering -/

theorem arrange_changes (width height : Nat) : session.Changes (session.arrange width height) := by
  unfold arrange
  split
  · next listed => exact .single (.arranged _ listed)
  · next built =>
      rcases here : session.workbench with _ | bench
      · have unchanged : session = { session with workbench := none } := by rw [← here]
        rw [Option.map_none, ← unchanged]
      · exact .single (.worked bench _ ⟨built, here⟩ (bench.arrange_change width height))
  · exact .refl

end Handlers
end Session

/-! ## Runs -/

namespace Running

theorem step_changes (r : Running) (step : Step) : r.session.Changes (r.step step).session := by
  cases step with
  | key key modifiers => exact Session.onKey_changes key modifiers r.world
  | mouse mouse => exact Session.onMouse_changes mouse r.world.now
  | render width height => exact Session.arrange_changes width height
  | _ => exact .refl

theorem run_changes (r : Running) (steps : List Step) :
    r.session.Changes (r.run steps).session := by
  induction steps generalizing r with
  | nil => exact .refl
  | cons step steps ih => exact (r.step_changes step).trans (ih (r.step step))

end Running
end FormSnippet
