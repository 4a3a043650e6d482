import FormSnippet.Builder
import FormSnippet.Session.Input
import FormSnippet.Session.World

/-!
# Workbench — the builder on the screen

A workbench is a builder with what the screen adds to it: the selected field, the window on the list
of fields, and a status message.  The preview is kept current by a listener, which leaves every
snippet that it is told in the memory of the builder.

- `Workbench.open`      : the workbench of a form that has just been opened
- `Workbench.onKey`     : what a key does
-/

namespace FormSnippet

/-! ## Status messages -/

/-- A message with the time at which it was set, in milliseconds. -/
structure Status where
  text : String
  since : Nat
  deriving DecidableEq, Repr

/-- A message is shown for a second and a half. -/
def Status.isShown (status : Status) (now : Nat) : Bool :=
  now - status.since ≤ 1500

/-! ## Workbenches -/

structure Workbench where
  formIndex : Nat
  model : Builder String
  selected : Nat
  scroll : Nat
  status : Option Status
  /-- The number of the listener that keeps the preview. -/
  listener : Nat

namespace Workbench

def «open» (formIndex : Nat) (form : Form) (options : Options) : Workbench :=
  let (model, listener) := (Builder.open form options "").subscribe fun code _ => code
  { formIndex
    model
    selected := 0
    scroll := 0
    status := none
    listener }

/-- The snippet as it is shown. -/
def preview (bench : Workbench) : String :=
  bench.model.memory

def fields (bench : Workbench) : List Field :=
  bench.model.fields

def selectedField? (bench : Workbench) : Option Field :=
  bench.fields[bench.selected]?

def withStatus (bench : Workbench) (text : String) (now : Nat) : Workbench :=
  { bench with status := some ⟨text, now⟩ }

/-! ## Moving -/

def next (bench : Workbench) : Workbench :=
  if bench.fields.isEmpty then bench
  else { bench with selected := (bench.selected + 1) % bench.fields.length }

def previous (bench : Workbench) : Workbench :=
  if bench.fields.isEmpty then bench
  else
    { bench with
      selected := if bench.selected = 0 then bench.fields.length - 1 else bench.selected - 1 }

/-! ## Changing the selection -/

def toggleOmitted (bench : Workbench) : Workbench :=
  match bench.selectedField? with
  | some field => { bench with model := bench.model.omitField field.name !field.isOmitted }
  | none => bench

/-- Patches the selected field; an omitted field has no flags and only gets a message. -/
def patchIncluded (bench : Workbench) (now : Nat) (patch : Field → Patch) : Workbench :=
  match bench.selectedField? with
  | some field =>
      if field.isOmitted then bench.withStatus "Field is omitted" now
      else { bench with model := bench.model.setField field.name (patch field) }
  | none => bench

def toggleFrontmatter (bench : Workbench) (now : Nat) : Workbench :=
  bench.patchIncluded now fun field => .frontmattering !field.onFrontmatter

def toggleBody (bench : Workbench) (now : Nat) : Workbench :=
  bench.patchIncluded now fun field => .bodying !field.onBody

/-- Whether there is an included field, and every one is written into the frontmatter. -/
def allOnFrontmatter (fields : List Field) : Bool :=
  let included := fields.filter (!·.isOmitted)
  !included.isEmpty && included.all (·.onFrontmatter)

/-- Writes every included field into the frontmatter, or none if all are written already. -/
def toggleAllFrontmatter (bench : Workbench) : Workbench :=
  { bench with model := bench.model.setAllFrontmatter !allOnFrontmatter bench.fields }

/-! ## Copying -/

/-- The message about an attempt to copy the preview. -/
def copyMessage (failure : Option String) : String :=
  match failure with
  | some cause => "copy failed: " ++ cause
  | none => "Copied"

def copy (bench : Workbench) (world : World) : Workbench :=
  bench.withStatus (copyMessage world.clipboardFailure) world.now

/-! ## Keys -/

/-- What a key does; `none` closes the workbench. -/
def onKey (bench : Workbench) (key : Key) (modifiers : Modifiers) (world : World) :
    Option Workbench :=
  match key with
  | .escape => none
  | .down | .char 'j' | .tab => some bench.next
  | .up | .char 'k' | .backTab => some bench.previous
  | .char ' ' | .char 'x' => some bench.toggleOmitted
  | .char 'f' => some (bench.toggleFrontmatter world.now)
  | .char 'b' => some (bench.toggleBody world.now)
  | .char 'a' => some bench.toggleAllFrontmatter
  | .char 't' => some { bench with model := bench.model.updateOptions .toggleFences }
  | .char 'g' => some { bench with model := bench.model.updateOptions .toggleHandle }
  | .char 'c' => some (if modifiers.control then bench.copy world else bench)
  | .char 'y' => some (bench.copy world)
  | _ => some bench

end Workbench
end FormSnippet
