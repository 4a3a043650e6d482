import FormSnippet.Proofs.Builder.Telling
import FormSnippet.Proofs.CommandLine.Print

/-!
# Request — a printed snippet read off its arguments

Print mode sets up a builder by one update after the other, and some of the updates may find no
field.  What comes out can be read off the arguments all the same: each field of the form has the
choice that the arguments make for its name, in whatever order and however often they name it, and
the names that are reported are those of the updates that found no field.

- `Builder.missed`        : the names whose updates find no field
- `Builder.Draft.missed_eq` : they are the names that the form does not declare
- `Print.run_eq_reading`  : the whole of what print mode hands out
-/

namespace FormSnippet
namespace Builder

variable {σ : Type}

/-! ## Updates that find no field -/

/-- The names whose updates find no field when the steps are taken one after the other. -/
def missed (b : Builder σ) : List (Step σ) → List String
  | [] => []
  | step :: rest =>
      (if (step.select? b.fields).isNone then step.target?.toList else []) ++
        (b.take step).missed rest

/-- A step that is meant for a name finds a field exactly if one carries that name. -/
theorem Step.select?_isNone {step : Step σ} {name : String} (meant : step.target? = some name)
    (fields : List Field) :
    (step.select? fields).isNone = true ↔ name ∉ fields.map (·.name) := by
  have unmatched (update : Field → Field) :
      (updateFirst? (fun (field : Field) => field.name == name) update fields).isNone = true ↔
        name ∉ fields.map (·.name) := by
    rw [Option.isNone_iff_eq_none, updateFirst?_eq_none]
    simp
  cases step with
  | setField target patch =>
      cases meant
      exact unmatched _
  | omitField target value =>
      cases meant
      exact unmatched _
  | _ => cases meant

/-- No step makes or takes away a name, so the first list of names decides about all updates. -/
theorem Draft.missed_eq (d : Draft σ) (steps : List (Step σ)) :
    d.builder.missed steps =
      (steps.filterMap (·.target?)).filter (· ∉ d.fields.map (·.name)) := by
  induction steps generalizing d with
  | nil => rfl
  | cons step rest ih =>
      have names : (d.take step).fields.map (·.name) = d.fields.map (·.name) := by
        rw [d.take_fields, Step.selected_names]
      rw [missed, d.take_builder, ih, names, Draft.builder_fields]
      cases meant : step.target? with
      | none => simp [meant]
      | some name =>
          by_cases known : name ∈ d.fields.map (·.name)
          · have found := mt (Step.select?_isNone meant d.fields).1 (not_not.2 known)
            have kept := mt of_decide_eq_true (not_not.2 known)
            rw [if_neg found, List.filterMap_cons_some meant, List.filter_cons, if_neg kept,
              List.nil_append]
          · have lost := (Step.select?_isNone meant d.fields).2 known
            rw [if_pos lost, List.filterMap_cons_some meant, List.filter_cons,
              if_pos (decide_eq_true known)]
            rfl

end Builder

namespace CommandLine
namespace Print

open Builder

/-! ## Reports -/

theorem steps_targets (arguments : Arguments) :
    (steps arguments).filterMap (·.target?) = names arguments := by
  have patches (patch : Patch) (names : List String) :
      (names.map (.setField · patch) : List (Builder.Step Unit)).filterMap (·.target?) = names := by
    rw [List.filterMap_map]
    exact List.filterMap_some
  rw [steps, List.filterMap_append, List.filterMap_append, List.filterMap_append, patches, patches,
    names]
  cases arguments.allFrontmatter <;> rfl

theorem unmatched_eq_filter (form : Form) (names : List String) :
    form.unmatched names = names.filter (· ∉ form.fieldNames) := by
  rw [Form.unmatched]
  refine List.filter_congr fun name _ => ?_
  rw [Bool.eq_iff_iff]
  simp [Form.hasField, Form.fieldNames]

/-- The names that are reported are those whose updates found no field. -/
theorem unmatched_eq_missed (form : Form) (arguments : Arguments) :
    form.unmatched (names arguments) =
      (Builder.open form {} ()).missed (steps arguments) := by
  rw [open_eq_watched, Draft.opened_builder, Draft.missed_eq, Draft.opened_names, steps_targets,
    unmatched_eq_filter]

/-! ## The reading -/

theorem form?_eq_none {forms : List Form} {name : String} :
    form? forms name = none ↔ ∀ form ∈ forms, form.name ≠ name := by
  simp [form?]

/-- Of a list of forms that has been loaded, print mode refuses a name exactly if no form has it.
Otherwise the first form of that name is compiled with a field omitted if it is among those to be
left out, and else included, and written into the frontmatter if all are to be or if it is among
those for it.  The names that are reported are those whose updates found no field, in order and with
repetitions, and such an update leaves the builder as it is. -/
theorem run_eq_reading (source : Source) (disk : Disk) (forms : List Form)
    (loaded : (source.load disk).result = .ok forms) (name : String) (arguments : Arguments) :
    (run forms name arguments = .error (.unknownForm name) ↔ ∀ form ∈ forms, form.name ≠ name) ∧
    ∀ (index : Nat) (form : Form), forms[index]? = some form → form.name = name →
      (∀ j < index, ∀ other : Form, forms[j]? = some other → other.name ≠ name) →
      let missed := (Builder.open form {} ()).missed (steps arguments)
      let choice (field : String) : Choice :=
        if field ∈ arguments.leaveOut then .omitted
        else .included (arguments.allFrontmatter || field ∈ arguments.frontmatter) false
      run forms name arguments =
        .ok
          { code :=
              compile form.name (form.fieldNames.map fun field => ⟨field, choice field⟩)
                { fences := !arguments.noFences, globalHandle := arguments.globalHandle }
            formName := form.name
            unmatched := missed
            events :=
              missed.map (Log.Event.ignoredUpdate form.name) ++
                missed.map (Log.Event.noSuchField form.name) } ∧
      ∀ before step after field, steps arguments = before ++ step :: after →
        step.target? = some field → field ∉ form.fieldNames →
          ((Builder.open form {} ()).after before).take step =
            (Builder.open form {} ()).after before := by
  constructor
  · -- There is no other error, and none if a form is found.
    rw [← form?_eq_none, run]
    cases form? forms name <;> simp
  · rintro index form declared rfl first missed choice
    have distinct : form.fieldNames.Nodup :=
      (Source.load_ok loaded).2 form (List.mem_of_getElem? declared)
    have found : form? forms form.name = some form := form?_eq_some declared first
    refine ⟨?result, ?ignored⟩
    case result =>
      have code : (builder form arguments).code =
          compile form.name (form.fieldNames.map fun field => ⟨field, choice field⟩)
            arguments.options := by
        rw [builder_code, builder_fields _ _ distinct, builder_options]
        rfl
      rw [run, found]
      simp only [code, events, unmatched_eq_missed]
      rfl
    case ignored =>
      intro before step after field _ meant unknown
      rw [open_eq_watched, watched_after, Draft.take_builder]
      refine congrArg Draft.builder (Draft.take_ignored _ meant ?_).1
      rwa [Draft.after_names, Draft.opened_names]

/-- Fields are named twice, on both lists, and without being there. -/
def crossed : Arguments :=
  { leaveOut := ["x", "y", "x"]
    frontmatter := ["z", "x", "z"]
    noFences := true }

theorem run_eq_reading_crossed :
    ((Source.explicit ⟨"forms.json"⟩).load Running.shelf.disk).result = .ok shelved ∧
      shelved[1]? = some ⟨"B", none, [⟨"x", none, none⟩]⟩ ∧
      (∀ j < 1, ∀ other, shelved[j]? = some other → other.name ≠ "B") ∧
      (run shelved "B" crossed).map (·.code) =
        .ok (compile "B" [⟨"x", .omitted⟩] { fences := false, globalHandle := false }) ∧
      (run shelved "B" crossed).map (·.unmatched) = .ok ["z", "z", "y"] ∧
      run shelved "C" crossed = .error (.unknownForm "C") := by
  have first : ∀ j < 1, ∀ other, shelved[j]? = some other → other.name ≠ "B" := by
    intro j before other here
    obtain rfl : j = 0 := by omega
    cases here
    decide
  have law (name : String) :=
    run_eq_reading (.explicit ⟨"forms.json"⟩) Running.shelf.disk shelved shelved_loaded name crossed
  have printed := ((law "B").2 1 ⟨"B", none, [⟨"x", none, none⟩]⟩ rfl rfl first).1
  have unknown := (law "C").1.2 (by decide)
  refine ⟨shelved_loaded, rfl, first, ?_, ?_, unknown⟩
  · rw [printed]
    rfl
  · rw [printed]
    simp only [Except.map, ← unmatched_eq_missed]
    rfl

end Print
end CommandLine
end FormSnippet
