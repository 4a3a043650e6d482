import FormSnippet.Form
import FormSnippet.Network.Link
import FormSnippet.Snippet

/-!
# Builder — a selection with its snippet

A builder holds the selection and the options for one form as two cells of a network, and the
snippet compiled from them as a third one that is linked to both.  Whoever listens to the snippet
leaves what it hears in the memory of the network.

- `Builder.open`        : every declared field included, both flags off
- `Builder.setField`    : merges a patch into the first field of a name
- `Builder.subscribe`   : a listener is told the snippet at once and after every change

Listeners do not call back into the builder, so every operation ends within a number of steps that
the number of listeners determines (`Builder.stepLimit`).
-/

namespace FormSnippet

namespace Builder

/-! ## The cells of a builder -/

inductive Part
  | fields
  | options
  | code
  deriving DecidableEq, Repr

abbrev Part.Value : Part → Type
  | .fields => List Field
  | .options => Options
  | .code => String

/-- The snippet follows the selection and the options. -/
def link (formName : String) (σ : Type) : Network.Link Part Part.Value σ :=
  { left := .fields
    right := .options
    target := .code
    compute := compile formName
    trace := fun _ _ _ memory => memory }

/-- What a listener makes of the memory when it is told a snippet. -/
abbrev Listener (σ : Type) : Type :=
  String → σ → σ

def Listener.callback {σ : Type} (listener : Listener σ) (code : String) :
    Network.Action Part Part.Value σ :=
  .note (listener code) .done

end Builder

structure Builder (σ : Type) where
  formName : String
  network : Network Builder.Part Builder.Part.Value σ

namespace Builder

variable {σ : Type}

def «open» (form : Form) (options : Options) (memory : σ) : Builder σ :=
  let cells : Network.Cells Part Part.Value σ
    | .fields => some (.new (form.fields.map fun field => Field.new field.name))
    | .options => some (.new options)
    | .code => none
  { formName := form.name
    network := Network.derive ⟨cells, memory⟩ (link form.name σ) }

/-! ## Reading -/

def fields (b : Builder σ) : List Field :=
  (b.network.value? .fields).getD []

def options (b : Builder σ) : Options :=
  (b.network.value? .options).getD {}

def code (b : Builder σ) : String :=
  (b.network.value? .code).getD ""

def memory (b : Builder σ) : σ :=
  b.network.memory

/-! ## Running -/

def listenerCount (b : Builder σ) : Nat :=
  match b.network.cells .code with
  | some cell => cell.subscribers.length
  | none => 0

/-- Steps enough for any one operation: those of the link, and three for each listener. -/
def stepLimit (b : Builder σ) : Nat :=
  16 + 3 * b.listenerCount

def perform (b : Builder σ) (action : Network.Action Part Part.Value σ) : Builder σ :=
  let m := (b.network.start action).run b.stepLimit
  { b with network := ⟨m.cells, m.memory⟩ }

/-! ## Operations on the selection -/

/-- A name that no field carries changes nothing and tells nobody. -/
def setField (b : Builder σ) (name : String) (patch : Patch) : Builder σ :=
  b.perform <| .updateIf .fields
    (updateFirst? (fun (field : Field) => field.name == name) (·.patched patch)) fun _ => .done

def omitField (b : Builder σ) (name : String) (value : Bool) : Builder σ :=
  b.setField name (.omitting value)

def setAllFrontmatter (b : Builder σ) (value : Bool) : Builder σ :=
  b.perform <| .update .fields (List.map (Field.setFrontmatter value)) fun _ => .done

/-! ## Operations on the options -/

def setOptions (b : Builder σ) (options : Options) : Builder σ :=
  b.perform <| .set .options options fun _ => .done

def updateOptions (b : Builder σ) (f : Options → Options) : Builder σ :=
  b.perform <| .update .options f fun _ => .done

/-! ## Listeners -/

/-- Tells the listener the snippet and registers it; its number identifies the registration. -/
def subscribe (b : Builder σ) (listener : Listener σ) : Builder σ × Nat :=
  let id :=
    match b.network.cells .code with
    | some cell => cell.nextId
    | none => 0
  (b.perform (.subscribe .code listener.callback fun _ => .done), id)

def unsubscribe (b : Builder σ) (id : Nat) : Builder σ :=
  b.perform <| .unsubscribe .code id fun _ => .done

end Builder

namespace Options

def toggleFences (options : Options) : Options :=
  { options with fences := !options.fences }

def toggleHandle (options : Options) : Options :=
  { options with globalHandle := !options.globalHandle }

end Options
end FormSnippet
