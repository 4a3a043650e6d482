import FormSnippet.Proofs.Session.Listing

/-!
# Fields — what the builder shows of the fields

The fields in the window have a row each.  Caption and help are below them and the template is on
their right, so inside the border of the fields a row of the screen shows one field or none.

- `Workbench.Displays`             : the rows of the fields, each as if it had been drawn alone
- `Session.drawBuilder_displays`   : the builder shows these
-/

namespace FormSnippet

open Screen

/-- Where the fields are drawn. -/
def fieldArea (width height : Nat) : Area :=
  (builderLayout width height).fields.framed

/-- The places of the fields are above caption and help, and on the left of the template. -/
theorem fieldArea_apart {width height column row : Nat}
    (inside : (fieldArea width height).contains column row = true) :
    row < (builderLayout width height).caption.y ∧ column < (builderLayout width height).preview.x ∧
      row < (builderLayout width height).help.y := by
  have listed := Area.contains_iff.1 inside
  simp only [fieldArea, builderLayout, screenArea, Area.splitBottom, Area.splitColumns, Area.framed,
    Area.right, Area.bottom] at listed ⊢
  omega

namespace Screen

/-- A box is drawn in its area. -/
theorem drawBoxed_confined (title : String) (overflow : Overflow) (lines : List Line)
    (area : Area) :
    Canvas.Confined (fun x y => area.x ≤ x ∧ area.y ≤ y)
      fun canvas => Session.drawBoxed title overflow lines area canvas := by
  have frame : Canvas.Confined (fun x y => area.x ≤ x ∧ area.y ≤ y)
      fun canvas => drawFrame title area canvas := by
    refine (drawFrame_confined title area).mono ?_
    intro x y border
    have inside := Area.contains_iff.1 border.1
    exact ⟨inside.1, inside.2.2.1⟩
  refine frame.comp ((drawParagraph_confined overflow lines area.framed).mono ?_)
  intro x y row
  simp only [Area.Rows, Area.framed, Area.right, Area.bottom] at row
  omega

end Screen

/-- The screen shows the fields: each row has the line of one field, cut off at the border, and the
rows behind the last line are empty. -/
structure Workbench.Displays (bench : Workbench) (screen : Canvas) (width height : Nat) : Prop where
  row : ∀ {column row : Nat} {line : Line},
    (fieldArea width height).contains column row = true →
    (Session.fieldLines bench (builderLayout width height).fields.inset.height)[
      row - (fieldArea width height).y]? = some line →
    screen.tile? column row =
      (drawGlyphs row (fieldArea width height).x
        (clip (fieldArea width height).width line.glyphs) (.blank width height)).tile? column row
  blank : ∀ {column row : Nat}, (fieldArea width height).contains column row = true →
    (Session.fieldLines bench (builderLayout width height).fields.inset.height)[
      row - (fieldArea width height).y]? = none →
    screen.tile? column row = (Canvas.blank width height).tile? column row

namespace Session

variable {width height : Nat}

/-- The frame is drawn before the fields, and everything after them lies elsewhere. -/
theorem drawBuilder_inside {column row : Nat} (session : Session) (bench : Workbench) (now : Nat)
    (inside : (fieldArea width height).contains column row = true) :
    ∃ framed : Canvas,
      framed.tile? column row = (Canvas.blank width height).tile? column row ∧
      (session.drawBuilder bench now width height).tile? column row =
        (drawParagraph .clip (fieldLines bench (builderLayout width height).fields.inset.height)
          (fieldArea width height) framed).tile? column row := by
  rcases fieldArea_apart inside with ⟨caption, preview, help⟩
  have off : ¬ (builderLayout width height).fields.OnBorder column row :=
    fun border => border.2 inside
  refine ⟨_, (drawFrame_confined (fieldsTitle bench.model.options) _).spares off _, ?_⟩
  -- From the last drawing back: help, template and caption spare the places of the fields.
  rw [drawBuilder, (drawHelp_confined _ _).spares fun rows => absurd rows.2.1 (by omega),
    (drawBoxed_confined _ _ _ _).spares fun place => absurd place.1 (by omega),
    (drawBoxed_confined _ _ _ _).spares fun place => absurd place.2 (by omega)]
  rfl

theorem drawBuilder_displays (session : Session) (bench : Workbench) (now width height : Nat) :
    bench.Displays (session.drawBuilder bench now width height) width height := by
  constructor
  case row =>
    intro column row line inside here
    rcases drawBuilder_inside session bench now inside with ⟨framed, same, drawn⟩
    rw [drawn, drawParagraph_tile? inside here]
    exact (drawGlyphs_confined _ _ _).tilewise same
  case blank =>
    intro column row inside free
    rcases drawBuilder_inside session bench now inside with ⟨framed, same, drawn⟩
    rw [drawn, drawParagraph_spares inside free, same]

end Session
end FormSnippet
