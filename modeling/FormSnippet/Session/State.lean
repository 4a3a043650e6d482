import FormSnippet.FormsFile
import FormSnippet.Screen.Area
import FormSnippet.Session.Scroll
import FormSnippet.Session.Workbench

/-!
# State — an interactive session

A session shows the list of forms, a workbench for one of them, or the error for which there is no
list.  It takes keys and mouse events; what is around it is its `World`.

- `Session.load`        : the session at its start
- `Session.onKey`       : a key
- `Session.onMouse`     : a mouse event
- `Session.editForms`   : the forms file handed to the editor and loaded again
-/

namespace FormSnippet

/-! ## Sessions -/

inductive View
  | list
  | builder
  | error
  deriving DecidableEq, Repr

/-- A click on an entry of the list, with its time in milliseconds. -/
structure Click where
  index : Nat
  time : Nat
  deriving DecidableEq, Repr

structure Session where
  forms : List Form
  source : Source
  defaults : Options
  selected : Option Nat
  scroll : Nat
  view : View
  /-- What the builder view shows. -/
  workbench : Option Workbench
  /-- What the error view shows. -/
  errorMessage : Option String
  lastClick : Option Click
  /-- Where the entries of the list were last drawn. -/
  listArea : Screen.Area
  shouldQuit : Bool
  status : Option Status
  needsRedraw : Bool

namespace Session

/-- The first form, if there is one. -/
def firstOf (forms : List Form) : Option Nat :=
  if forms.isEmpty then none else some 0

def ofForms (forms : List Form) (source : Source) (defaults : Options) : Session :=
  { forms
    source
    defaults
    selected := firstOf forms
    scroll := 0
    view := .list
    workbench := none
    errorMessage := none
    lastClick := none
    listArea := .empty
    shouldQuit := false
    status := none
    needsRedraw := false }

def load (source : Source) (defaults : Options) (disk : Disk) : Session × Disk :=
  match source.load disk with
  | ⟨disk, _, .ok forms⟩ => (ofForms forms source defaults, disk)
  | ⟨disk, _, .error error⟩ =>
      ({ ofForms [] source defaults with view := .error, errorMessage := some error.message }, disk)

def withStatus (session : Session) (text : String) (now : Nat) : Session :=
  { session with status := some ⟨text, now⟩ }

/-! ## Moving in the list -/

def moveDown (session : Session) : Session :=
  if session.forms.isEmpty then session
  else
    { session with
      selected := some (min (session.selected.getD 0 + 1) (session.forms.length - 1)) }

def moveUp (session : Session) : Session :=
  if session.forms.isEmpty then session
  else
    { session with
      selected := some (min (session.selected.getD 0 - 1) (session.forms.length - 1)) }

/-! ## Opening and closing -/

def openSelected (session : Session) : Session :=
  match session.selected with
  | none => session
  | some index =>
      match session.forms[index]? with
      | none => session
      | some form =>
          { session with
            workbench := some (.open index form session.defaults)
            view := .builder }

/-- The workbench is dropped, and with it its builder and the listener. -/
def closeBuilder (session : Session) : Session :=
  { session with workbench := none, view := .list }

/-! ## Editing the forms file -/

/-- The session after the editor has ended well: the forms are loaded again. -/
def reload (session : Session) (disk : Disk) (now : Nat) : Session × Disk :=
  let session := { session with needsRedraw := true }
  match session.source.load disk with
  | ⟨disk, _, .ok forms⟩ => ({ session with forms, selected := firstOf forms, scroll := 0 }, disk)
  | ⟨disk, _, .error error⟩ => (session.withStatus error.message now, disk)

/-- The first step that fails ends the edit with its message. -/
def editForms (session : Session) (world : World) : Session × World :=
  match world.editor.filter (!Text.allBlank ·) with
  | none => (session.withStatus Editor.Error.unset.message world.now, world)
  | some command =>
      match session.source.prepare world.disk with
      | ⟨disk, _, .error error⟩ =>
          (session.withStatus error.message world.now, { world with disk })
      | ⟨disk, _, .ok ()⟩ =>
          let bindings := ("EDITOR", command) :: world.bindings
          match Editor.run world.system command session.source.path disk bindings with
          | (disk, .error error) =>
              (session.withStatus error.message world.now, { world with disk })
          | (disk, .ok ()) =>
              let (session, disk) := session.reload disk world.now
              (session, { world with disk })

/-! ## Keys -/

def onKeyList (session : Session) (key : Key) (world : World) : Session × World :=
  match key with
  | .char 'q' | .escape => ({ session with shouldQuit := true }, world)
  | .down | .char 'j' => (session.moveDown, world)
  | .up | .char 'k' => (session.moveUp, world)
  | .enter => (session.openSelected, world)
  | .char 'e' => session.editForms world
  | _ => (session, world)

def onKeyError (session : Session) (key : Key) : Session :=
  match key with
  | .char 'q' | .escape => { session with shouldQuit := true }
  | _ => session

def onKeyBuilder (session : Session) (key : Key) (modifiers : Modifiers) (world : World) :
    Session :=
  match session.workbench with
  | none => session
  | some bench =>
      match bench.onKey key modifiers world with
      | some bench => { session with workbench := some bench }
      | none => session.closeBuilder

def onKey (session : Session) (key : Key) (modifiers : Modifiers) (world : World) :
    Session × World :=
  match session.view with
  | .list => session.onKeyList key world
  | .builder => (session.onKeyBuilder key modifiers world, world)
  | .error => (session.onKeyError key, world)

/-! ## The mouse -/

/-- The entry of the list at a place of the screen. -/
def entryAt? (session : Session) (mouse : Mouse) : Option Nat :=
  if session.listArea.contains mouse.column mouse.row then
    let index := session.scroll + (mouse.row - session.listArea.y)
    if index < session.forms.length then some index else none
  else none

/-- Whether a click on an entry follows another one on it soon enough. -/
def isDoubleClick (lastClick : Option Click) (index now : Nat) : Bool :=
  match lastClick with
  | some click => click.index = index && now - click.time ≤ 400
  | none => false

def click (session : Session) (index now : Nat) : Session :=
  let chosen := { session with selected := some index }
  let shown := if isDoubleClick session.lastClick index now then chosen.openSelected else chosen
  { shown with lastClick := some ⟨index, now⟩ }

def onMouse (session : Session) (mouse : Mouse) (now : Nat) : Session :=
  match session.view with
  | .list =>
      if mouse.action = .down .left then
        match session.entryAt? mouse with
        | some index => session.click index now
        | none => session
      else session
  | _ => session

end Session
end FormSnippet
