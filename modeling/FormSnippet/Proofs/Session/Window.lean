import FormSnippet.Proofs.Session.Fields
import FormSnippet.Proofs.Session.Sound

/-!
# Window — the part of a list that is drawn

Both views draw a part of a list inside a border, from where the window begins as far as there is
room.  Nothing on the way checks that differences stay above zero and that the part lies on the
list; that they do is due to the places that sessions keep.  Here the same is computed with all of
it checked, and no check ever fails.

- `Window.on?`                  : the window on a list, with every difference and the part checked
- `Window.on?_eq`               : on a place of the list no check fails
- `Window.Shows`                : the window shows the selected entry, and marks no other
- `Running.rendering_in_bounds` : both views, in every run and on every screen, as they are seen
-/

namespace FormSnippet

open Screen

/-! ## Checks -/

/-- A difference, refused below zero. -/
def minus? (a b : Nat) : Option Nat :=
  if b ≤ a then some (a - b) else none

/-- The entries from `start` up to `stop`, refused if these are out of order or off the list. -/
def slice? {α : Type} (start stop : Nat) (entries : List α) : Option (List α) :=
  if start ≤ stop ∧ stop ≤ entries.length then some ((entries.take stop).drop start) else none

theorem minus?_of_le {a b : Nat} (le : b ≤ a) : minus? a b = some (a - b) :=
  if_pos le

namespace Screen.Area

/-- `Area.inset` with its differences checked. -/
def inset? (area : Area) : Option Area := do
  let columns ←
    if 2 ≤ area.width then
      (minus? area.width 2).map fun width => { area with x := area.x + 1, width }
    else some area
  if 2 ≤ columns.height then
    (minus? columns.height 2).map fun height => { columns with y := columns.y + 1, height }
  else some columns

theorem inset?_eq (area : Area) : area.inset? = some area.inset := by
  unfold inset? inset
  by_cases wide : 2 ≤ area.width
  · simp only [if_pos wide, minus?_of_le wide, Option.map_some, Option.bind_eq_bind,
      Option.bind_some]
    split
    · next high => rw [minus?_of_le high, Option.map_some]
    · rfl
  · simp only [if_neg wide, Option.bind_eq_bind, Option.bind_some]
    split
    · next high => rw [minus?_of_le high, Option.map_some]
    · rfl

end Screen.Area

/-- `scrollTo` with its difference checked. -/
def scrollTo? (scroll selected total height : Nat) : Option Nat :=
  if total = 0 ∨ height = 0 then some 0
  else
    let scroll := min scroll (total - 1)
    if selected < scroll then some selected
    else if selected ≥ scroll + height then minus? (selected + 1) height
    else some scroll

theorem scrollTo?_eq (scroll selected total height : Nat) :
    scrollTo? scroll selected total height = some (scrollTo scroll selected total height) := by
  rw [scrollTo?, scrollTo]
  split
  · rfl
  · dsimp only
    split
    · rfl
    · split
      · next below =>
          have room : height ≤ selected + 1 := by omega
          exact minus?_of_le room
      · rfl

/-! ## Windows -/

/-- A window on a list: its height, the places between which its entries are, and these. -/
structure Window (α : Type) where
  height : Nat
  start : Nat
  stop : Nat
  shown : List α

namespace Window

variable {α : Type}

/-- The window on a list that is drawn inside the border of an area. -/
def on? (area : Area) (scroll selected : Nat) (entries : List α) : Option (Window α) := do
  let inner ← area.inset?
  let start ← scrollTo? scroll selected entries.length inner.height
  let stop := windowEnd start entries.length inner.height
  let shown ← slice? start stop entries
  return { height := inner.height, start, stop, shown }

/-- The window as the views compute it. -/
def on (area : Area) (scroll selected : Nat) (entries : List α) : Window α :=
  let height := area.inset.height
  let start := scrollTo scroll selected entries.length height
  { height
    start
    stop := windowEnd start entries.length height
    shown := window start height entries }

/-- The window lies on the list. -/
theorem on_bounds (area : Area) (scroll : Nat) {selected : Nat} {entries : List α}
    (place : Within selected entries.length) :
    (on area scroll selected entries).start ≤ (on area scroll selected entries).stop ∧
      (on area scroll selected entries).stop ≤ entries.length := by
  have begins : Within (scrollTo scroll selected entries.length area.inset.height) entries.length :=
    scrollTo_within place
  have listed : scrollTo scroll selected entries.length area.inset.height ≤ entries.length := by
    rw [Within] at begins
    split at begins <;> omega
  constructor
  · exact Nat.le_min.2 ⟨Nat.le_add_right _ _, listed⟩
  · exact Nat.min_le_right _ _

theorem on?_eq (area : Area) (scroll : Nat) {selected : Nat} {entries : List α}
    (place : Within selected entries.length) :
    on? area scroll selected entries = some (on area scroll selected entries) := by
  have sliced : slice? (on area scroll selected entries).start
      (on area scroll selected entries).stop entries =
        some (on area scroll selected entries).shown :=
    if_pos (on_bounds area scroll place)
  rw [on, windowEnd] at sliced
  simp only [on?, Area.inset?_eq, scrollTo?_eq, Option.bind_eq_bind, Option.bind_some, windowEnd,
    sliced]
  rfl

/-- The window shows a stretch of the list with the selected entry in it, as long as there is room
and as there are entries; of the marks in front of what is shown, that of the selected entry is set
and no other. -/
structure Shows (w : Window α) (selected : Nat) (entries : List α) (marks : List Bool) : Prop where
  length : w.shown.length = min w.height (entries.length - w.start)
  stretch : ∀ k < w.shown.length, w.shown[k]? = entries[w.start + k]?
  inside : w.start ≤ selected ∧ selected < w.start + w.shown.length
  marks : marks = (List.range w.shown.length).map fun k => decide (w.start + k = selected)

theorem on_shows {area : Area} {scroll selected : Nat} {entries : List α} {marks : List Bool}
    (room : 0 < area.inset.height) (listed : selected < entries.length)
    (marked : marks = (on area scroll selected entries).shown.zipIdx.map fun entry =>
      decide ((on area scroll selected entries).start + entry.2 = selected)) :
    (on area scroll selected entries).Shows selected entries marks := by
  have reaches : scrollTo scroll selected entries.length area.inset.height ≤ selected ∧
      selected < scrollTo scroll selected entries.length area.inset.height + area.inset.height :=
    scrollTo_shows room listed
  have length : (on area scroll selected entries).shown.length =
      min (on area scroll selected entries).height
        (entries.length - (on area scroll selected entries).start) := by
    simp only [on, length_window]
    omega
  constructor
  case length => exact length
  case stretch => exact fun k shown => window_getElem? shown
  case inside =>
    rw [length]
    simp only [on]
    omega
  case marks =>
    have places : (on area scroll selected entries).shown.zipIdx.map Prod.snd =
        List.range (on area scroll selected entries).shown.length := by
      rw [List.zipIdx_map_snd, List.range_eq_range']
    rw [marked, ← places, List.map_map]
    rfl

end Window

/-! ## Marks -/

namespace Screen

/-- The line begins with the marker of the selected entry. -/
def Line.isMarked (line : Line) : Bool :=
  selectedMarker.toList.isPrefixOf (line.flatMap (·.text))

/-- The first line of the entry does. -/
def Entry.isMarked (entry : Entry) : Bool :=
  entry.head?.any Line.isMarked

end Screen

theorem isPrefixOf_marker (isSelected : Bool) (rest : List Char) :
    selectedMarker.toList.isPrefixOf ((marker isSelected).toList ++ rest) = isSelected := by
  cases isSelected <;> rfl

theorem Form.entry_isMarked (form : Form) (isSelected : Bool) :
    Entry.isMarked (form.entry isSelected) = isSelected := by
  have begun : (marker isSelected).toList ≠ [] := by cases isSelected <;> decide
  have plain : '\n' ∉ (marker isSelected).toList := by cases isSelected <;> decide
  have solid : (marker isSelected).toList.getLast? ≠ some '\r' := by
    cases isSelected <;> decide
  rcases Text.blockLines_begins begun plain solid form.entryText.toList with ⟨behind, others, split⟩
  have first : (form.entry isSelected).head? =
      some [{ text := (marker isSelected).toList ++ behind }] := by
    rw [Form.entry, textLines, String.toList_append, split]
    rfl
  rw [Entry.isMarked, first, Option.any_some, Line.isMarked]
  simpa using isPrefixOf_marker isSelected behind

theorem Field.line_isMarked (field : Field) (isSelected : Bool) :
    Line.isMarked (field.line isSelected) = isSelected := by
  have begins : ∃ behind, (field.line isSelected).flatMap (·.text) =
      (marker isSelected).toList ++ behind := by
    rw [Field.line]
    cases field.choice <;> exact ⟨_, rfl⟩
  rcases begins with ⟨behind, begins⟩
  rw [Line.isMarked, begins]
  exact isPrefixOf_marker isSelected behind

/-! ## Views -/

namespace Session

variable {session : Session} {selected : Nat}

/-- The window of the list as it is drawn. -/
def listWindow (session : Session) (width height selected : Nat) : Window Form :=
  .on (listLayout width height).1 session.scroll selected session.forms

theorem arrange_listEntries (listed : session.view = .list)
    (chosen : session.selected = some selected) (width height : Nat) :
    (session.arrange width height).listEntries =
      (session.listWindow width height selected).shown.zipIdx.map fun (form, k) =>
        form.entry ((session.listWindow width height selected).start + k = selected) := by
  simp only [listEntries_eq, arrange, listed, chosen, Option.getD_some]
  rfl

/-- Drawing moves the window of the list and remembers where that is. -/
theorem arrange_listWindow (listed : session.view = .list)
    (chosen : session.selected = some selected) (width height : Nat) :
    (session.arrange width height).scroll = (session.listWindow width height selected).start ∧
      (session.arrange width height).listArea.height =
        (session.listWindow width height selected).height := by
  simp only [arrange, listed, chosen, Option.getD_some]
  exact ⟨rfl, rfl⟩

theorem arrange_marks (listed : session.view = .list) (chosen : session.selected = some selected)
    (width height : Nat) :
    (session.arrange width height).listEntries.map Entry.isMarked =
      (session.listWindow width height selected).shown.zipIdx.map fun entry =>
        decide ((session.listWindow width height selected).start + entry.2 = selected) := by
  rw [arrange_listEntries listed chosen, List.map_map]
  apply List.map_congr_left
  intro entry _
  exact Form.entry_isMarked _ _

theorem render_displays (listed : session.view = .list) (now width height : Nat) :
    (session.render now width height).1.Displays (session.render now width height).2 width
      height := by
  have kept : (session.arrange width height).view = .list := by
    simp only [arrange, listed]
  have shown : (session.render now width height).2 =
      (session.arrange width height).drawList now width height := by
    simp only [render, draw, kept]
  rw [shown]
  exact drawList_displays _ now width height

end Session

namespace Workbench

/-- The window of the fields as it is drawn. -/
def fieldWindow (bench : Workbench) (width height : Nat) : Window Field :=
  .on (builderLayout width height).fields bench.scroll bench.selected bench.fields

theorem arrange_fieldLines (bench : Workbench) (width height : Nat) :
    Session.fieldLines (bench.arrange width height)
        (builderLayout width height).fields.inset.height =
      (bench.fieldWindow width height).shown.zipIdx.map fun (field, k) =>
        field.line ((bench.fieldWindow width height).start + k = bench.selected) :=
  rfl

theorem arrange_marks (bench : Workbench) (width height : Nat) :
    (Session.fieldLines (bench.arrange width height)
        (builderLayout width height).fields.inset.height).map Line.isMarked =
      (bench.fieldWindow width height).shown.zipIdx.map fun entry =>
        decide ((bench.fieldWindow width height).start + entry.2 = bench.selected) := by
  rw [arrange_fieldLines, List.map_map]
  apply List.map_congr_left
  intro entry _
  exact Field.line_isMarked _ _

end Workbench

namespace Session.AtBench

variable {session : Session} {bench : Workbench}

theorem arrange (open' : session.AtBench bench) (width height : Nat) :
    (session.arrange width height).AtBench (bench.arrange width height) := by
  rw [open'.arrange_eq]
  exact ⟨open'.built, rfl⟩

theorem render_displays (open' : session.AtBench bench) (now width height : Nat) :
    (bench.arrange width height).Displays (session.render now width height).2 width height := by
  have arranged := open'.arrange width height
  have shown : (session.render now width height).2 =
      (session.arrange width height).drawBuilder (bench.arrange width height) now width height := by
    simp only [render, draw, arranged.built, arranged.here]
  rw [shown]
  exact drawBuilder_displays _ _ now width height

end Session.AtBench

namespace Running

/-- Whatever has happened, and however small the screen, no check fails on the window of either
view, and the window lies on its list.  With a row inside the border it shows as many entries as it
can, one behind the other, and among them the selected one, which alone is marked.  The entries of
the window are what is seen on the screen. -/
theorem rendering_in_bounds (source : Source) (defaults : Options) (world : World)
    (steps : List Step) (now width height : Nat) :
    let session := ((start source defaults world).run steps).session
    let drawn := (session.render now width height).1
    let screen := (session.render now width height).2
    (session.view = .list →
      ∃ selected w, session.selected = some selected ∧
        Window.on? (listLayout width height).1 session.scroll selected session.forms = some w ∧
        w.start ≤ w.stop ∧ w.stop ≤ session.forms.length ∧
        (drawn.scroll = w.start ∧ drawn.listArea.height = w.height ∧
          drawn.listEntries = w.shown.zipIdx.map fun (form, k) =>
            form.entry (w.start + k = selected)) ∧
        drawn.Displays screen width height ∧
        (1 ≤ w.height →
          w.Shows selected session.forms (drawn.listEntries.map Entry.isMarked))) ∧
    (∀ bench, session.workbench = some bench →
      ∃ bench' w, drawn.workbench = some bench' ∧
        Window.on? (builderLayout width height).fields bench.scroll bench.selected bench.fields =
          some w ∧
        w.start ≤ w.stop ∧ w.stop ≤ bench.fields.length ∧
        (bench'.scroll = w.start ∧ (builderLayout width height).fields.inset.height = w.height ∧
          Session.fieldLines bench' w.height = w.shown.zipIdx.map fun (field, k) =>
            field.line (w.start + k = bench.selected)) ∧
        bench'.Displays screen width height ∧
        (1 ≤ w.height → bench.fields ≠ [] →
          w.Shows bench.selected bench.fields
            ((Session.fieldLines bench' w.height).map Line.isMarked))) := by
  intro session drawn screen
  have sound : session.Sound := run_sound source defaults world steps
  constructor
  case left =>
    intro listed
    -- The list is shown only if it has a form, and then one of its forms is selected.
    rcases sound.selected (sound.nonempty listed) with ⟨selected, chosen, declared⟩
    have place : Within selected session.forms.length := within_of_lt declared
    have bounds := Window.on_bounds (listLayout width height).1 session.scroll place
    have windowed : drawn.scroll = (session.listWindow width height selected).start ∧
        drawn.listArea.height = (session.listWindow width height selected).height :=
      Session.arrange_listWindow listed chosen width height
    have entries := Session.arrange_listEntries listed chosen width height
    refine ⟨selected, session.listWindow width height selected, chosen, Window.on?_eq _ _ place,
      bounds.1, bounds.2, ⟨windowed.1, windowed.2, entries⟩,
      Session.render_displays listed now width height, ?_⟩
    intro room
    exact Window.on_shows room declared (Session.arrange_marks listed chosen width height)
  case right =>
    intro bench here
    -- A form may be without fields, so a place in the builder need not be below their number.
    rcases sound.bench bench here with ⟨-, form, -, fit⟩
    have place : Within bench.selected bench.fields.length := by
      rw [fit.length]
      exact fit.selected
    have bounds := Window.on_bounds (builderLayout width height).fields bench.scroll place
    have open' : session.AtBench bench := sound.atBench here
    refine ⟨bench.arrange width height, bench.fieldWindow width height,
      (open'.arrange width height).here, Window.on?_eq _ _ place, bounds.1, bounds.2,
      ⟨rfl, rfl, bench.arrange_fieldLines width height⟩,
      open'.render_displays now width height, ?_⟩
    intro room nonempty
    have declared : bench.selected < bench.fields.length := by
      rw [Within, if_neg (mt List.length_eq_zero_iff.1 nonempty)] at place
      exact place
    exact Window.on_shows room declared (bench.arrange_marks width height)

/-- The list has been drawn in one row with its last form selected. -/
def lowered : Running :=
  atShelf.run [.render 20 4, .key .down {}, .render 20 4]

theorem lowered_shown :
    lowered.session.view = .list ∧ lowered.session.selected = some 1 ∧
      (lowered.step (.key .enter {})).session.workbench.map (·.fields) =
        some [⟨"x", .included false false⟩] := by
  decide +kernel

theorem rendering_in_bounds_lowered :
    (lowered.session.view = .list ∧
      ∃ w, Window.on? (listLayout 1 4).1 lowered.session.scroll 1 lowered.session.forms = some w ∧
        1 ≤ w.height ∧
        w.Shows 1 lowered.session.forms
          ((lowered.session.render 0 1 4).1.listEntries.map Entry.isMarked)) ∧
    ∃ bench bench' w, (lowered.step (.key .enter {})).session.workbench = some bench ∧
      bench.fields ≠ [] ∧
      Window.on? (builderLayout 1 7).fields bench.scroll bench.selected bench.fields = some w ∧
      1 ≤ w.height ∧
      w.Shows bench.selected bench.fields
        ((Session.fieldLines bench' w.height).map Line.isMarked) := by
  rcases lowered_shown with ⟨listed, chosen, opened⟩
  constructor
  · have law := rendering_in_bounds (.explicit ⟨"forms.json"⟩) {} shelf
      [.render 20 4, .key .down {}, .render 20 4] 0 1 4
    have reached : (start (.explicit ⟨"forms.json"⟩) {} shelf).run
        [.render 20 4, .key .down {}, .render 20 4] = lowered := rfl
    rw [reached] at law
    rcases law.1 listed with ⟨selected, w, same, checked, -, -, ⟨-, rows, -⟩, -, shows⟩
    obtain rfl : selected = 1 := Option.some.inj (same.symm.trans chosen)
    have room : 1 ≤ w.height := by
      rw [← rows]
      simp only [Session.render, Session.arrange, listed]
      decide
    exact ⟨listed, w, checked, room, shows room⟩
  · rcases Option.map_eq_some_iff.1 opened with ⟨bench, here, fields⟩
    have law := rendering_in_bounds (.explicit ⟨"forms.json"⟩) {} shelf
      [.render 20 4, .key .down {}, .render 20 4, .key .enter {}] 0 1 7
    have reached : (start (.explicit ⟨"forms.json"⟩) {} shelf).run
        [.render 20 4, .key .down {}, .render 20 4, .key .enter {}] =
          lowered.step (.key .enter {}) := by
      simp only [lowered, atShelf, run, List.foldl_cons, List.foldl_nil]
    rw [reached] at law
    rcases law.2 bench here with ⟨bench', w, -, checked, -, -, ⟨-, rows, -⟩, -, shows⟩
    have nonempty : bench.fields ≠ [] := by
      rw [fields]
      exact List.cons_ne_nil _ _
    have room : 1 ≤ w.height := by
      rw [← rows]
      decide
    exact ⟨bench, bench', w, here, nonempty, checked, room, shows room nonempty⟩

end Running
end FormSnippet
