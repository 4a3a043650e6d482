import FormSnippet.Proofs.Session.Listing
import FormSnippet.Proofs.Session.Sound

/-!
# Click — clicks and what they are on

A click counts the rows from the window on, as if each entry took one row and as if the list had a
border on every screen.  It hits what is drawn exactly as long as both are so: titles with a line
feed move the entries below them, and a list of one row or one column is all border.

- `Session.ClicksHit`       : a click selects the form that is shown at its place, or nothing
- `Session.clicksHit_iff`   : when clicks hit, after the list has been arranged
- `Running.clicks_hit_iff`  : the same in every run
- `Running.click_missed`    : a list of two forms with a click that misses
-/

namespace FormSnippet

open Screen

namespace Session

variable {session : Session} {width height : Nat}

/-! ## Clicks -/

def leftClick (session : Session) (column row now : Nat) : Session :=
  session.onMouse ⟨.down .left, column, row⟩ now

/-- A click selects the form whose entry is shown at its place, and is remembered as one on it; a
click where no form is shown changes nothing. -/
structure ClicksHit (session : Session) (width height : Nat) : Prop where
  hits : ∀ {column row index : Nat}, session.ShownAt width height column row index → ∀ now,
    (session.leftClick column row now).selected = some index ∧
      (session.leftClick column row now).lastClick = some ⟨index, now⟩
  misses : ∀ {column row : Nat}, (∀ index, ¬ session.ShownAt width height column row index) →
    ∀ now, session.leftClick column row now = session

theorem openSelected_selected (session : Session) :
    session.openSelected.selected = session.selected := by
  rw [openSelected]
  split
  · rfl
  · split <;> rfl

theorem click_selected (session : Session) (index now : Nat) :
    (session.click index now).selected = some index := by
  unfold click
  dsimp only
  split
  · exact openSelected_selected _
  · rfl

theorem leftClick_of_hit (listed : session.view = .list) {column row index : Nat}
    (hit : session.entryAt? ⟨.down .left, column, row⟩ = some index) (now : Nat) :
    session.leftClick column row now = session.click index now := by
  simp only [leftClick, onMouse, listed, if_pos, hit]

theorem leftClick_of_miss (listed : session.view = .list) {column row : Nat}
    (miss : session.entryAt? ⟨.down .left, column, row⟩ = none) (now : Nat) :
    session.leftClick column row now = session := by
  simp only [leftClick, onMouse, listed, if_pos, miss]

/-- A session does not remember the same click at two times. -/
theorem lastClick_once (session : Session) (index : Nat) :
    ¬ ∀ now, session.lastClick = some ⟨index, now⟩ := by
  intro always
  have same := (always 0).symm.trans (always 1)
  cases same

/-- Clicks hit exactly if the entry that is looked up at a place is the one that is shown there: by
the time of a click it can be told whether an entry has been found. -/
theorem clicksHit_iff_entryAt? (listed : session.view = .list) :
    session.ClicksHit width height ↔
      ∀ column row index, session.entryAt? ⟨.down .left, column, row⟩ = some index ↔
        session.ShownAt width height column row index := by
  constructor
  · intro clicks column row index
    constructor
    · intro hit
      have remembered (now : Nat) :
          (session.leftClick column row now).lastClick = some ⟨index, now⟩ := by
        rw [leftClick_of_hit listed hit]
        rfl
      by_cases other : ∃ shown, session.ShownAt width height column row shown
      · rcases other with ⟨shown, here⟩
        have same := (remembered 0).symm.trans (clicks.hits here 0).2
        cases same
        exact here
      · have unchanged := clicks.misses fun shown here => other ⟨shown, here⟩
        simp only [unchanged] at remembered
        exact absurd remembered (session.lastClick_once index)
    · intro here
      rcases hit : session.entryAt? ⟨.down .left, column, row⟩ with _ | found
      · have remembered := fun now => (clicks.hits here now).2
        simp only [leftClick_of_miss listed hit] at remembered
        exact absurd remembered (session.lastClick_once index)
      · have selected := (clicks.hits here 0).1
        rw [leftClick_of_hit listed hit, click_selected] at selected
        exact selected
  · intro agree
    constructor
    case hits =>
      intro column row index here now
      rw [leftClick_of_hit listed ((agree column row index).2 here)]
      exact ⟨click_selected session index now, rfl⟩
    case misses =>
      intro column row hidden now
      apply leftClick_of_miss listed
      rw [Option.eq_none_iff_forall_ne_some]
      intro index hit
      exact hidden index ((agree column row index).1 hit)

/-! ## When they hit -/

/-- With the list drawn where it is looked for, a click hits exactly as long as every entry takes one
row. -/
theorem entryAt?_agrees_iff (placed : session.listArea = entryArea width height)
    (nonempty : ¬ (entryArea width height).isEmpty = true) :
    (∀ column row index, session.entryAt? ⟨.down .left, column, row⟩ = some index ↔
        session.ShownAt width height column row index) ↔
      ∀ entry ∈ session.listEntries, entry.length = 1 := by
  generalize room : entryArea width height = area at placed nonempty
  have listed : session.listEntries.length =
      min (session.scroll + area.height) session.forms.length - session.scroll := by
    rw [length_listEntries, length_window, placed]
  have fits : session.listEntries.length ≤ area.height := by omega
  have shown_iff (column row index : Nat) :
      session.ShownAt width height column row index ↔
        area.contains column row = true ∧ ∃ k, index = session.scroll + k ∧
          RowShows session.listEntries area.height session.selectedInWindow (row - area.y) k := by
    rw [ShownAt, room]
  rw [← rowShows_one_by_one_iff fits session.selectedInWindow]
  constructor
  · intro agree row index
    -- A row of the area is looked at in its first column.
    have corner (inside : row < area.height) : area.contains area.x (area.y + row) = true := by
      rw [Area.isEmpty_iff] at nonempty
      rw [Area.contains_iff, Area.right, Area.bottom]
      omega
    have counted : area.y + row - area.y = row := Nat.add_sub_cancel_left ..
    have here := agree area.x (area.y + row) (session.scroll + index)
    rw [entryAt?_eq_some, shown_iff, placed] at here
    dsimp only at here
    rw [counted] at here
    constructor
    · intro shown
      have bounds := shown.lt
      have hit := here.2 ⟨corner bounds.1, index, rfl, shown⟩
      omega
    · rintro ⟨rfl, declared⟩
      have inside := corner (by omega)
      rcases here.1 ⟨inside, rfl, by omega⟩ with ⟨-, k, same, shown⟩
      have same : index = k := Nat.add_left_cancel same
      rwa [same] at shown ⊢
  · intro one column row index
    rw [entryAt?_eq_some, shown_iff, placed]
    dsimp only
    constructor
    · rintro ⟨inside, rfl, declared⟩
      have bounds := Area.contains_iff.1 inside
      rw [Area.bottom] at bounds
      exact ⟨inside, _, rfl, (one _ _).2 ⟨rfl, by omega⟩⟩
    · rintro ⟨inside, k, rfl, shown⟩
      rcases (one _ _).1 shown with ⟨rfl, declared⟩
      exact ⟨inside, rfl, by omega⟩

/-- After the list has been arranged for a screen, clicks hit if there is room inside the border and
each entry takes one row, or if there is no place to click on. -/
theorem clicksHit_iff (listed : session.view = .list) (sound : session.Sound)
    (arranged : session.listArea = (listLayout width height).1.inset) :
    session.ClicksHit width height ↔
      session.listArea.isEmpty = true ∨
        ¬ (entryArea width height).isEmpty = true ∧
          ∀ form ∈ window session.scroll session.listArea.height session.forms,
            '\n' ∉ form.displayTitle.toList := by
  rw [clicksHit_iff_entryAt? listed, ← listEntries_rows_iff]
  by_cases empty : session.listArea.isEmpty = true
  · -- There is nothing to click on, and nothing is shown.
    have closed : (entryArea width height).isEmpty = true := by
      rw [arranged] at empty
      exact Area.framed_isEmpty empty
    refine ⟨fun _ => .inl empty, ?_⟩
    intro _ column row index
    rw [entryAt?_eq_some]
    constructor
    · rintro ⟨inside, -⟩
      exact absurd empty (Area.not_isEmpty_of_contains inside)
    · rintro ⟨inside, -⟩
      exact absurd closed (Area.not_isEmpty_of_contains inside)
  · by_cases closed : (entryArea width height).isEmpty = true
    · -- The first form of the window is hit in the border.
      constructor
      · intro agree
        have declared : session.scroll < session.forms.length :=
          sound.scroll (sound.nonempty listed)
        have hit : session.entryAt? ⟨.down .left, session.listArea.x, session.listArea.y⟩ =
            some session.scroll :=
          entryAt?_eq_some.2 ⟨Area.contains_corner empty, by simp, declared⟩
        have shown := (agree _ _ _).1 hit
        exact absurd closed (Area.not_isEmpty_of_contains shown.1)
      · rintro (nothing | ⟨nonempty, -⟩)
        · exact absurd nothing empty
        · exact absurd closed nonempty
    · have placed : session.listArea = entryArea width height :=
        arranged.trans (Area.inset_eq_framed closed)
      rw [entryAt?_agrees_iff placed closed]
      constructor
      · exact fun rows => .inr ⟨closed, rows⟩
      · rintro (nothing | ⟨-, rows⟩)
        · exact absurd nothing empty
        · exact rows

/-! ## Runs -/

/-- The list is looked for where a border of its own would leave room. -/
theorem arrange_listArea (listed : (session.arrange width height).view = .list) :
    (session.arrange width height).listArea = (listLayout width height).1.inset := by
  rcases here : session.view with _ | _ | _
  · simp only [arrange, here]
  · simp only [arrange, here] at listed
    cases listed
  · simp only [arrange, here] at listed
    cases listed

end Session

namespace Running

/-- Whatever has happened before, a list that is drawn shows the entries of its forms inside the
border, and then the clicks hit what is drawn exactly if there is no place to click on, or if there is
room inside the border and no form in the window has a title with a line feed. -/
theorem clicks_hit_iff (source : Source) (defaults : Options) (world : World) (steps : List Step)
    (width height : Nat) :
    let session := ((start source defaults world).run steps).session.arrange width height
    session.view = .list →
      (∀ now, session.Displays (session.draw now width height) width height) ∧
      (session.ClicksHit width height ↔
        session.listArea.isEmpty = true ∨
          ¬ (Session.entryArea width height).isEmpty = true ∧
            ∀ form ∈ window session.scroll session.listArea.height session.forms,
              '\n' ∉ form.displayTitle.toList) := by
  intro session listed
  have sound : session.Sound :=
    (run_sound source defaults world steps).changes (Session.arrange_changes width height)
  have drawn (now : Nat) : session.draw now width height = session.drawList now width height := by
    rw [Session.draw, listed]
  refine ⟨?_, Session.clicksHit_iff listed sound (Session.arrange_listArea listed)⟩
  intro now
  rw [drawn]
  exact session.drawList_displays now width height

theorem atShelf_shows :
    (atShelf.session.arrange 40 10).view = .list ∧
      ¬ (Session.entryArea 40 10).isEmpty = true ∧
      ∀ form ∈ window (atShelf.session.arrange 40 10).scroll
          (atShelf.session.arrange 40 10).listArea.height (atShelf.session.arrange 40 10).forms,
        '\n' ∉ form.displayTitle.toList := by
  decide +kernel

theorem clicks_hit_iff_atShelf :
    (atShelf.session.arrange 40 10).view = .list ∧
      (atShelf.session.arrange 40 10).ClicksHit 40 10 := by
  rcases atShelf_shows with ⟨listed, nonempty, titles⟩
  have law := clicks_hit_iff (.explicit ⟨"forms.json"⟩) {} shelf [] 40 10
  have reached : (start (.explicit ⟨"forms.json"⟩) {} shelf).run [] = atShelf := rfl
  rw [reached] at law
  exact ⟨listed, (law listed).2.2 (.inr ⟨nonempty, titles⟩)⟩

/-- Two forms, the first one with a name of two lines, on a screen. -/
def twoLines : Running :=
  let disk : Disk := { entries := [(["forms.json"], .file "[[\"A\\nB\"],[\"C\"]]".toUTF8)] }
  (start (.explicit ⟨"forms.json"⟩) {} { shelf with disk }).run [.render 40 10]

/-- The rows of the entries are those behind the first row of the screen. -/
theorem twoLines_shows :
    twoLines.session.view = .list ∧
      (Session.entryArea 40 10).contains 5 3 = true ∧ twoLines.session.scroll = 0 ∧
      (placements twoLines.session.listEntries (Session.entryArea 40 10).height
        twoLines.session.selectedInWindow).any (fun placement =>
          placement.index = 1 ∧ placement.row ≤ 2 ∧
            2 < placement.row + placement.entry.length) = true := by
  decide +kernel

theorem twoLines_drawn :
    ((twoLines.session.drawList 0 40 10).tile? 3 3).map (·.symbol) = some ['C'] := by
  decide +kernel

theorem twoLines_clicked : (twoLines.session.leftClick 5 3 0).selected = some 0 := by
  decide +kernel

/-- The second form is seen in the third row of the list, and a click there does not select it. -/
theorem click_missed :
    twoLines.session.view = .list ∧ twoLines.session.ShownAt 40 10 5 3 1 ∧
      ((twoLines.session.drawList 0 40 10).tile? 3 3).map (·.symbol) = some ['C'] ∧
      (twoLines.session.leftClick 5 3 0).selected = some 0 ∧
      ¬ twoLines.session.ClicksHit 40 10 := by
  rcases twoLines_shows with ⟨listed, inside, unmoved, seen⟩
  have shown : twoLines.session.ShownAt 40 10 5 3 1 := by
    rcases List.any_eq_true.1 seen with ⟨placement, placed, here⟩
    rcases of_decide_eq_true here with ⟨second, upper, lower⟩
    have counted : 1 = twoLines.session.scroll + 1 := by rw [unmoved]
    exact ⟨inside, 1, counted, placement, placed, second, upper, lower⟩
  refine ⟨listed, shown, twoLines_drawn, twoLines_clicked, ?_⟩
  intro clicks
  have selected := (clicks.hits shown 0).1
  rw [twoLines_clicked] at selected
  cases selected

end Running
end FormSnippet
