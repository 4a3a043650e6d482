import FormSnippet.Proofs.Session.Sound

/-!
# Shown — what the builder view shows is what the builder holds

The data of an open workbench is in four places: the list of forms, the selection and the options of
the builder, its snippet, and the preview.  In every run they agree.

- `Workbench.Sound.preview`       : the preview of a sound workbench
- `Workbench.Sound.selected_name` : the selected field is the one that the caption is about
- `Running.preview_current`       : the law for runs
-/

namespace FormSnippet

namespace Workbench.Sound

variable {bench : Workbench} {form : Form}

/-- The preview is the snippet, and the snippet is compiled from what is selected. -/
theorem preview (sound : bench.Sound form) :
    bench.preview = bench.model.code ∧
      bench.preview = compile form.name bench.model.fields bench.model.options ∧
      bench.model.formName = form.name := by
  rcases sound.keeps with ⟨fields, options, held, -⟩
  simp [Workbench.preview, held]

/-- The field definition at the selected place goes by the name of the selected field. -/
theorem selected_name (sound : bench.Sound form) :
    bench.selectedField?.map (·.name) = form.fields[bench.selected]?.map (·.name) := by
  have here := congrArg (fun names : List String => names[bench.selected]?) sound.names
  simpa only [selectedField?, Form.fieldNames, List.getElem?_map] using here

end Workbench.Sound

theorem Session.captionText_eq {session : Session} {bench : Workbench} {form : Form}
    (found : session.forms[bench.formIndex]? = some form) :
    session.captionText bench = (form.fields[bench.selected]?.map (·.caption)).getD "" := by
  rw [captionText, found]
  rfl

namespace Running

/-- Whenever a workbench is open, its preview is the snippet of its builder, compiled for the form
that is open from the selection and the options; the builder has the fields of that form, which are
pairwise different, and the caption describes the selected one. -/
theorem preview_current (source : Source) (defaults : Options) (world : World) (steps : List Step)
    (bench : Workbench) :
    let session := ((start source defaults world).run steps).session
    session.workbench = some bench →
      bench.preview = bench.model.code ∧
      ∃ form, session.forms[bench.formIndex]? = some form ∧
        bench.preview = compile form.name bench.model.fields bench.model.options ∧
        bench.model.formName = form.name ∧
        bench.model.fields.map (·.name) = form.fieldNames ∧ form.fieldNames.Nodup ∧
        bench.selectedField?.map (·.name) = form.fields[bench.selected]?.map (·.name) ∧
        session.captionText bench = (form.fields[bench.selected]?.map (·.caption)).getD "" := by
  intro session here
  have sound : session.Sound := run_sound source defaults world steps
  rcases sound.bench bench here with ⟨-, form, found, fit⟩
  rcases fit.preview with ⟨current, compiled, named⟩
  have declared : form ∈ session.forms := List.mem_of_getElem? found
  exact ⟨current, form, found, compiled, named, fit.names, sound.distinct form declared,
    fit.selected_name, Session.captionText_eq found⟩

/-- A field is omitted and the fences are dropped. -/
def busyKeys : List Step :=
  [.key .down {}, .key .enter {}, .key (.char 'x') {}, .key (.char 't') {}, .render 40 12]

theorem busy_reaches : (atShelf.run busyKeys).session.workbench.isSome = true := by
  decide +kernel

theorem preview_current_busy :
    ∃ bench, (atShelf.run busyKeys).session.workbench = some bench ∧
      bench.preview = bench.model.code ∧
      ∃ form, (atShelf.run busyKeys).session.forms[bench.formIndex]? = some form ∧
        bench.preview = compile form.name bench.model.fields bench.model.options ∧
        bench.model.fields.map (·.name) = form.fieldNames := by
  rcases Option.isSome_iff_exists.1 busy_reaches with ⟨bench, here⟩
  have law := preview_current (.explicit ⟨"forms.json"⟩) {} shelf busyKeys bench
  rcases law here with ⟨current, form, found, compiled, -, names, -⟩
  exact ⟨bench, here, current, form, found, compiled, names⟩

end Running
end FormSnippet
