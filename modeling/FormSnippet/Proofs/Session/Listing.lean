import FormSnippet.Proofs.Screen.Drawing
import FormSnippet.Proofs.Session.Scroll
import FormSnippet.Proofs.Text.Lines
import FormSnippet.Session.Display

/-!
# Listing — what the list of forms shows

Each form in the window has an entry, and an entry has one row more than there are line feeds in the
title of its form.  Inside the border of the list a row of the screen belongs to one entry or to none.

- `Form.length_entry`           : the rows of an entry
- `Session.ShownAt`             : the entry of a form at a place of the screen
- `Session.drawList_displays`   : what is seen there is that entry alone, or nothing
-/

namespace FormSnippet

open Screen

/-! ## Entries -/

/-- The entry of a form in the list. -/
def Form.entry (form : Form) (isSelected : Bool) : Entry :=
  textLines (marker isSelected ++ form.entryText)

theorem Form.length_entry (form : Form) (isSelected : Bool) :
    (form.entry isSelected).length = form.displayTitle.toList.count '\n' + 1 := by
  have number : '\n' ∉ (toString form.fields.length).toList := by
    intro feed
    rw [Nat.toString_eq_repr, Nat.toList_repr] at feed
    have digit := Nat.isDigit_of_mem_toDigits (by decide) (by decide) feed
    cases digit
  have marked : (marker isSelected).toList.count '\n' = 0 := by
    cases isSelected <;> decide
  have text : (marker isSelected ++ form.entryText).toList =
      (marker isSelected).toList ++ (form.displayTitle.toList ++ "  [".toList ++
        (toString form.fields.length).toList ++ " fields]".toList) := by
    simp only [entryText, String.toList_append]
  -- The text ends with a bracket, so every line feed has a line behind it.
  have ended : (marker isSelected ++ form.entryText).toList.getLast? ≠ some '\n' := by
    have last : " fields]".toList.getLast? = some ']' := by decide
    rw [text, ← List.append_assoc, List.getLast?_append, last]
    simp
  rw [entry, textLines, List.length_map, Text.length_blockLines ended, text]
  simp only [List.count_append, marked, List.count_eq_zero.2 number]
  simp

namespace Session

variable {session : Session} {width height : Nat}

theorem listEntries_eq (session : Session) : session.listEntries =
    (window session.scroll session.listArea.height session.forms).zipIdx.map fun (form, k) =>
      form.entry (session.scroll + k = session.selected.getD 0) :=
  rfl

theorem length_listEntries (session : Session) : session.listEntries.length =
    (window session.scroll session.listArea.height session.forms).length := by
  rw [listEntries_eq, List.length_map, List.length_zipIdx]

/-- Entries are those of the forms in the window. -/
theorem listEntries_getElem? {k : Nat} {entry : Entry}
    (found : session.listEntries[k]? = some entry) :
    ∃ form, session.forms[session.scroll + k]? = some form ∧
      entry = form.entry (session.scroll + k = session.selected.getD 0) := by
  have listed : k < session.listEntries.length := (List.getElem?_eq_some_iff.1 found).1
  rw [length_listEntries] at listed
  rw [listEntries_eq, List.getElem?_map, List.getElem?_zipIdx, window_getElem? listed] at found
  rcases here : session.forms[session.scroll + k]? with _ | form
  · rw [here] at found
    cases found
  · simp only [here, Option.map_some, Option.some.injEq, Nat.zero_add] at found
    exact ⟨form, rfl, found.symm⟩

theorem listEntries_rows_iff (session : Session) :
    (∀ entry ∈ session.listEntries, entry.length = 1) ↔
      ∀ form ∈ window session.scroll session.listArea.height session.forms,
        '\n' ∉ form.displayTitle.toList := by
  have single (form : Form) (isSelected : Bool) :
      (form.entry isSelected).length = 1 ↔ '\n' ∉ form.displayTitle.toList := by
    rw [Form.length_entry, ← List.count_eq_zero]
    omega
  rw [listEntries_eq, List.forall_mem_map]
  constructor
  · intro rows form mem
    rcases List.getElem_of_mem mem with ⟨k, listed, found⟩
    have placed : ((form, k) : Form × Nat) ∈
        (window session.scroll session.listArea.height session.forms).zipIdx := by
      rw [List.mem_zipIdx_iff_getElem?, List.getElem?_eq_getElem listed, found]
    exact (single form _).1 (rows (form, k) placed)
  · rintro titles ⟨form, k⟩ placed
    have mem : form ∈ window session.scroll session.listArea.height session.forms :=
      List.mem_of_getElem? (List.mem_zipIdx_iff_getElem?.1 placed)
    exact (single form _).2 (titles form mem)

/-! ## Places -/

/-- Where the entries are drawn: what the border leaves of the upper part of the screen. -/
def entryArea (width height : Nat) : Area :=
  (listLayout width height).1.framed

/-- The place is inside the border, in a row of the entry of the form of that index. -/
def ShownAt (session : Session) (width height column row index : Nat) : Prop :=
  let area := entryArea width height
  area.contains column row = true ∧
    ∃ k, index = session.scroll + k ∧
      RowShows session.listEntries area.height session.selectedInWindow (row - area.y) k

/-! ## What is seen -/

theorem drawHelp_confined (text : String) (area : Area) :
    Canvas.Confined area.Rows fun canvas => drawHelp text area canvas := by
  have painted : Canvas.Confined area.Rows
      fun canvas => canvas.paint area { foreground := some .darkGray } := by
    apply (Canvas.paint_confined area _).mono
    intro x y inside
    rw [Area.contains_iff] at inside
    exact ⟨inside.1, inside.2.2⟩
  exact painted.comp (drawParagraph_confined .clip (textLines text) area)

/-- The colours of the selected entry. -/
def highlight : Style :=
  { foreground := some .white, background := some .blue }

/-- The help is drawn below the list, and the title on its border. -/
theorem drawList_inside {column row : Nat} (now : Nat)
    (inside : (entryArea width height).contains column row = true) :
    ∃ framed : Canvas,
      framed.tile? column row = (Canvas.blank width height).tile? column row ∧
      (session.drawList now width height).tile? column row =
        (drawEntries session.listEntries session.selectedInWindow highlight
          (entryArea width height) framed).tile? column row := by
  have above : ¬ (listLayout width height).2.Rows column row := by
    have listed := (Area.contains_iff.1 inside).2.2.2
    simp only [entryArea, listLayout, screenArea, Area.splitBottom, Area.framed, Area.Rows,
      Area.bottom] at listed ⊢
    omega
  -- The frame is drawn before the entries, and the help after them.
  have off : ¬ (listLayout width height).1.OnBorder column row := fun border => border.2 inside
  exact ⟨_, (drawFrame_confined _ _).spares off _, (drawHelp_confined _ _).spares above _⟩

/-- The screen shows the list: where a form is shown, its entry is seen as if it had been drawn alone,
and where none is shown, nothing is seen inside the border. -/
structure Displays (session : Session) (screen : Canvas) (width height : Nat) : Prop where
  entry : ∀ {column row index : Nat}, session.ShownAt width height column row index →
    ∃ form placement, session.forms[index]? = some form ∧
      placement.entry = form.entry (index = session.selected.getD 0) ∧
      placement.Takes (entryArea width height) column row ∧
      screen.tile? column row =
        (drawEntry (entryArea width height) highlight session.selectedInWindow
          (.blank width height) placement).tile? column row
  blank : ∀ {column row : Nat}, (entryArea width height).contains column row = true →
    (∀ index, ¬ session.ShownAt width height column row index) →
    screen.tile? column row = (Canvas.blank width height).tile? column row

theorem drawList_displays (session : Session) (now width height : Nat) :
    session.Displays (session.drawList now width height) width height := by
  constructor
  case entry =>
    rintro column row index ⟨inside, k, rfl, placement, placed, rfl, covered⟩
    rcases listEntries_getElem? (placement_fits placed).1 with ⟨form, found, entry⟩
    have takes : placement.Takes (entryArea width height) column row :=
      ⟨(Area.contains_iff.1 inside).2.2.1, covered⟩
    refine ⟨form, placement, found, entry, takes, ?_⟩
    rcases session.drawList_inside now inside with ⟨framed, same, drawn⟩
    calc (session.drawList now width height).tile? column row
        = (drawEntries session.listEntries session.selectedInWindow highlight
            (entryArea width height) framed).tile? column row := drawn
      _ = (drawEntry (entryArea width height) highlight session.selectedInWindow framed
            placement).tile? column row := drawEntries_tile? inside placed takes highlight framed
      _ = (drawEntry (entryArea width height) highlight session.selectedInWindow
            (.blank width height) placement).tile? column row :=
          (drawEntry_confined _ _ _ placement).tilewise same
  case blank =>
    intro column row inside free
    rcases session.drawList_inside now inside with ⟨framed, same, drawn⟩
    have untouched : ∀ placement ∈ placements session.listEntries
        (entryArea width height).height session.selectedInWindow,
        ¬ placement.Takes (entryArea width height) column row := by
      intro placement placed takes
      exact free _ ⟨inside, _, rfl, placement, placed, rfl, takes.2⟩
    calc (session.drawList now width height).tile? column row
        = (drawEntries session.listEntries session.selectedInWindow highlight
            (entryArea width height) framed).tile? column row := drawn
      _ = framed.tile? column row := drawEntries_spares untouched highlight framed
      _ = (Canvas.blank width height).tile? column row := same

end Session
end FormSnippet
