import FormSnippet.Builder

/-!
# Step — the history of a builder

What may happen to a builder is a step, and a history is a list of steps.  A step that changes the
selection or the options says so without regard to cells and listeners.

- `Step`              : one operation with its arguments
- `Builder.after`     : a builder after a history
- `Step.select?`      : what a step makes of the selection
- `Step.adjust?`      : what a step makes of the options
-/

namespace FormSnippet
namespace Builder

open Network

variable {σ : Type}

/-! ## Steps -/

inductive Step (σ : Type)
  | setField (name : String) (patch : Patch)
  | omitField (name : String) (value : Bool)
  | setAllFrontmatter (value : Bool)
  | setOptions (options : Options)
  | updateOptions (f : Options → Options)
  | subscribe (listener : Listener σ)
  | unsubscribe (id : Nat)

namespace Step

/-- What the step has the network of a builder do. -/
def action : Step σ → Action Part Part.Value σ
  | .setField name patch =>
      .updateIf .fields (updateFirst? (fun (field : Field) => field.name == name) (·.patched patch))
        fun _ => .done
  | .omitField name value =>
      .updateIf .fields
        (updateFirst? (fun (field : Field) => field.name == name) (·.patched (.omitting value)))
        fun _ => .done
  | .setAllFrontmatter value =>
      .update .fields (List.map (Field.setFrontmatter value)) fun _ => .done
  | .setOptions options => .set .options options fun _ => .done
  | .updateOptions f => .update .options f fun _ => .done
  | .subscribe listener => .subscribe .code listener.callback fun _ => .done
  | .unsubscribe id => .unsubscribe .code id fun _ => .done

end Step

/-- The builder after an operation. -/
def take (b : Builder σ) : Step σ → Builder σ
  | .setField name patch => b.setField name patch
  | .omitField name value => b.omitField name value
  | .setAllFrontmatter value => b.setAllFrontmatter value
  | .setOptions options => b.setOptions options
  | .updateOptions f => b.updateOptions f
  | .subscribe listener => (b.subscribe listener).1
  | .unsubscribe id => b.unsubscribe id

theorem take_eq_perform (b : Builder σ) (step : Step σ) : b.take step = b.perform step.action := by
  cases step <;> rfl

/-- An operation that ends within the limit is performed to its end. -/
theorem perform_eq {b : Builder σ} {action : Action Part Part.Value σ}
    {net : Network Part Part.Value σ} (ends : b.network.perform? b.stepLimit action = some net) :
    b.perform action = { b with network := net } := by
  rw [perform?] at ends
  split at ends
  · cases ends
    rfl
  · cases ends

/-- The builder after a history. -/
def after (b : Builder σ) (steps : List (Step σ)) : Builder σ :=
  steps.foldl take b

/-! ## What a step says of the selection and of the options -/

namespace Step

/-- The selection that the step stores, if it stores one. -/
def select? : Step σ → List Field → Option (List Field)
  | .setField name patch, fields =>
      updateFirst? (fun (field : Field) => field.name == name) (·.patched patch) fields
  | .omitField name value, fields =>
      updateFirst? (fun (field : Field) => field.name == name) (·.patched (.omitting value)) fields
  | .setAllFrontmatter value, fields => some (fields.map (.setFrontmatter value))
  | _, _ => none

/-- The options that the step stores, if it stores any. -/
def adjust? : Step σ → Options → Option Options
  | .setOptions options, _ => some options
  | .updateOptions f, options => some (f options)
  | _, _ => none

/-- The selection after the step. -/
def selected (step : Step σ) (fields : List Field) : List Field :=
  (step.select? fields).getD fields

/-- The options after the step. -/
def adjusted (step : Step σ) (options : Options) : Options :=
  (step.adjust? options).getD options

/-- The name of the one field that the step is meant for. -/
def target? : Step σ → Option String
  | .setField name _ | .omitField name _ => some name
  | _ => none

/-- The step is an operation on the selection. -/
def onFields : Step σ → Bool
  | .setField _ _ | .omitField _ _ | .setAllFrontmatter _ => true
  | _ => false

/-- The step is an operation on the options. -/
def onOptions : Step σ → Bool
  | .setOptions _ | .updateOptions _ => true
  | _ => false

/-- The step is an operation on the selection or on the options, and leaves the list of listeners
alone. -/
def operates (step : Step σ) : Bool :=
  step.onFields || step.onOptions

theorem operates_or_listens (step : Step σ) :
    step.operates = true ∨ (∃ listener, step = .subscribe listener) ∨
      ∃ id, step = .unsubscribe id := by
  cases step <;> simp [operates, onFields, onOptions]

end Step
end Builder
end FormSnippet
