import Mathlib.Data.Nat.Dist
import FormSnippet.Proofs.Screen.Area
import FormSnippet.Proofs.Session.Sound

/-!
# Follow — a window that follows the selection

A window on a list shows a place if it begins between two bounds.  So moving it as little as needed
means clamping its beginning to these.

A machine computes the beginning with words, and there are windows so high that a sum leaves them.
A screen has no such height, though: its rows are counted in sixteen bits, and a list in memory has
fewer than `2 ^ 63` entries.

- `Visible`             : the places that a window shows
- `Nearest`             : of the windows that show a place, the one that begins nearest to another
- `scrollTo_clamp`      : the beginning of the window is clamped
- `scrollWord?`         : the beginning of the window, computed with words
- `scrollTo_nearest`    : it is moved no further than needed, and never leaves the list
- `Running.scroll_fits` : the windows of a session are computed with words
-/

namespace FormSnippet

section Windows

variable {scroll selected total height place : Nat}

/-! ## Windows that show a place -/

/-- The place is among those that the window on a list of `total` entries shows. -/
def Visible (scroll height total place : Nat) : Prop :=
  place ∈ window scroll height (List.range total)

theorem window_range : window scroll height (List.range total) =
    List.range' scroll (min (scroll + height) total - scroll) := by
  rw [window, windowEnd, List.length_range, List.take_range, Nat.min_eq_left (Nat.min_le_right _ _),
    List.range_eq_range', List.drop_range', Nat.mul_one, Nat.zero_add]

theorem visible_iff (listed : place < total) :
    Visible scroll height total place ↔ scroll ≤ place ∧ place < scroll + height := by
  rw [Visible, window_range, List.mem_range'_1]
  omega

/-- Of all windows of this height that show the place, the one that begins at `found` begins nearest
to `scroll`, and no other begins as near. -/
structure Nearest (scroll height total place found : Nat) : Prop where
  shows : Visible found height total place
  nearer : ∀ other, Visible other height total place → other ≠ found →
    Nat.dist scroll found < Nat.dist scroll other

/-! ## The window is moved as little as needed -/

/-- Clamping a number to an interval gives the nearest number in it. -/
theorem dist_clamp_lt {low high x y : Nat} (above : low ≤ y) (below : y ≤ high)
    (other : y ≠ max low (min x high)) : Nat.dist x (max low (min x high)) < Nat.dist x y := by
  unfold Nat.dist
  omega

theorem scrollTo_clamp (room : 0 < height) (listed : selected < total) :
    scrollTo scroll selected total height =
      max (selected + 1 - height) (min scroll selected) := by
  have nonempty : ¬ (total = 0 ∨ height = 0) := by omega
  simp only [scrollTo, if_neg nonempty]
  split
  · omega
  · split
    · omega
    · omega

theorem nearest_scrollTo (room : 0 < height) (listed : selected < total) :
    Nearest scroll height total selected (scrollTo scroll selected total height) where
  shows := (visible_iff listed).2 (scrollTo_shows room listed)
  nearer := by
    intro other shown apart
    rcases (visible_iff listed).1 shown with ⟨begins, reaches⟩
    rw [scrollTo_clamp room listed] at apart ⊢
    have above : selected + 1 - height ≤ other := by omega
    exact dist_clamp_lt above begins apart

/-- A window that shows the selected entry stays where it is. -/
theorem scrollTo_of_visible (listed : selected < total)
    (shown : Visible scroll height total selected) :
    scrollTo scroll selected total height = scroll := by
  rcases (visible_iff listed).1 shown with ⟨begins, reaches⟩
  have room : 0 < height := by omega
  rw [scrollTo_clamp room listed]
  omega

end Windows

/-! ## Words -/

/-- A sum of words, refused where it leaves them. -/
def sum? (a b : UInt64) : Option UInt64 :=
  if a.toNat + b.toNat < UInt64.size then some (a + b) else none

/-- A difference of words, refused below zero. -/
def difference? (a b : UInt64) : Option UInt64 :=
  if b ≤ a then some (a - b) else none

/-- `scrollTo` with words, every sum and every difference checked. -/
def scrollWord? (scroll selected total height : UInt64) : Option UInt64 :=
  if total = 0 ∨ height = 0 then some 0
  else
    let scroll := min scroll (total - 1)
    if selected < scroll then some selected
    else do
      let stop ← sum? scroll height
      if selected ≥ stop then
        let next ← sum? selected 1
        difference? next height
      else some scroll

section Words

variable {a b : UInt64}

theorem sum?_of_lt (fits : a.toNat + b.toNat < UInt64.size) :
    ∃ c, sum? a b = some c ∧ c.toNat = a.toNat + b.toNat := by
  refine ⟨a + b, if_pos fits, ?_⟩
  rw [UInt64.toNat_add]
  exact Nat.mod_eq_of_lt fits

theorem difference?_of_le (le : b ≤ a) :
    ∃ c, difference? a b = some c ∧ c.toNat = a.toNat - b.toNat :=
  ⟨a - b, if_pos le, UInt64.toNat_sub_of_le a b le⟩

theorem toNat_eq_zero_iff : a = 0 ↔ a.toNat = 0 := by
  rw [← UInt64.toNat_inj]
  rfl

variable {selected total height : UInt64} (scroll : UInt64)

theorem toNat_min_pred (nonempty : 0 < total.toNat) :
    (min scroll (total - 1)).toNat = min scroll.toNat (total.toNat - 1) := by
  have one : (1 : UInt64) ≤ total := UInt64.le_iff_toNat_le.2 nonempty
  rw [UInt64.toNat_min, UInt64.toNat_sub_of_le _ _ one]
  rfl

/-- Words are enough as long as the list and the window together do not leave them. -/
theorem scrollWord?_eq (listed : selected < total)
    (fits : total.toNat + height.toNat ≤ UInt64.size) :
    ∃ next, scrollWord? scroll selected total height = some next ∧
      next.toNat = scrollTo scroll.toNat selected.toNat total.toNat height.toNat := by
  have below : selected.toNat < total.toNat := UInt64.lt_iff_toNat_lt.1 listed
  have least := toNat_min_pred scroll (Nat.zero_lt_of_lt below)
  unfold scrollWord? scrollTo
  simp only [toNat_eq_zero_iff, UInt64.lt_iff_toNat_lt, ge_iff_le, UInt64.le_iff_toNat_le, least]
  split
  · exact ⟨0, rfl, rfl⟩
  · split
    · exact ⟨selected, rfl, rfl⟩
    · -- The window begins on the list, so its end is a word as well.
      have ends : (min scroll (total - 1)).toNat + height.toNat < UInt64.size := by
        rw [least]
        omega
      rcases sum?_of_lt ends with ⟨stop, stops, stop_eq⟩
      simp only [stops, Option.bind_eq_bind, Option.bind_some, stop_eq, least]
      split
      · next passed =>
          have behind : selected.toNat + (1 : UInt64).toNat < UInt64.size := by
            have small := total.toNat_lt_size
            have one : (1 : UInt64).toNat = 1 := rfl
            omega
          rcases sum?_of_lt behind with ⟨next, nexts, next_eq⟩
          have room : height ≤ next := by
            have one : (1 : UInt64).toNat = 1 := rfl
            rw [UInt64.le_iff_toNat_le]
            omega
          rcases difference?_of_le room with ⟨place, places, place_eq⟩
          refine ⟨place, ?_, ?_⟩
          · rw [nexts, Option.bind_some, places]
          · rw [place_eq, next_eq]
            rfl
      · exact ⟨_, rfl, least⟩

/-- The bounds under which the views ask: sixteen bits for the rows of a screen, and fewer than
`2 ^ 63` entries in memory. -/
theorem scrollWord?_of_short {height : UInt16} (listed : selected < total)
    (short : total.toNat < 2 ^ 63) :
    ∃ next, scrollWord? scroll selected total height.toUInt64 = some next ∧
      next.toNat = scrollTo scroll.toNat selected.toNat total.toNat height.toNat := by
  rw [← UInt16.toNat_toUInt64]
  refine scrollWord?_eq scroll listed ?_
  have rows := height.toNat_lt
  have size : UInt64.size = 2 ^ 64 := rfl
  rw [UInt16.toNat_toUInt64]
  omega

end Words

/-! ## Look after look -/

/-- A look at a list: the selected entry, how long the list is, and how high the window. -/
structure Look where
  selected : UInt64
  total : UInt64
  height : UInt16
  listed : selected < total
  short : total.toNat < 2 ^ 63

/-- Where the window begins at each look. -/
def follow? (scroll : UInt64) : List Look → Option (List UInt64)
  | [] => some []
  | look :: looks => do
      let next ← scrollWord? scroll look.selected look.total look.height.toUInt64
      let later ← follow? next looks
      return next :: later

/-- At a look the window begins on the list, and shows the selected entry if it has a row. -/
def Look.Held (look : Look) (scroll : UInt64) : Prop :=
  scroll < look.total ∧
    (0 < look.height →
      Visible scroll.toNat look.height.toNat look.total.toNat look.selected.toNat)

theorem Look.held (look : Look) (scroll : UInt64) :
    ∃ next, scrollWord? scroll look.selected look.total look.height.toUInt64 = some next ∧
      look.Held next := by
  have below : look.selected.toNat < look.total.toNat := UInt64.lt_iff_toNat_lt.1 look.listed
  rcases scrollWord?_of_short scroll look.listed look.short with ⟨next, found, same⟩
  refine ⟨next, found, ?_, ?_⟩
  · rw [UInt64.lt_iff_toNat_lt, same]
    exact scrollTo_lt below
  · intro room
    rw [same]
    exact (nearest_scrollTo (UInt16.lt_iff_toNat_lt.1 room) below).shows

/-- Wherever the window began before the first look, it is held at every look. -/
theorem follow?_held (scroll : UInt64) (looks : List Look) :
    ∃ places, follow? scroll looks = some places ∧ List.Forall₂ Look.Held looks places := by
  induction looks generalizing scroll with
  | nil => exact ⟨[], rfl, .nil⟩
  | cons look looks ih =>
      rcases look.held scroll with ⟨next, found, held⟩
      rcases ih next with ⟨places, followed, later⟩
      refine ⟨next :: places, ?_, .cons held later⟩
      simp only [follow?, found, followed, Option.bind_eq_bind, Option.bind_some, pure]

/-! ## The law -/

/-- No sum and no difference leaves the words.  The beginning of the window is clamped to the
interval of those from which the selected entry is shown, and so it is the nearest of them; a window
that shows the selected entry stays, and moving it a second time changes nothing.  Whatever is
selected, and however the list and the window grow or shrink, the window begins on the list. -/
theorem scrollTo_nearest (scroll : UInt64) {selected total : UInt64} {height : UInt16}
    (room : 0 < height) (listed : selected < total) (short : total.toNat < 2 ^ 63) :
    ∃ next, scrollWord? scroll selected total height.toUInt64 = some next ∧
      next.toNat = scrollTo scroll.toNat selected.toNat total.toNat height.toNat ∧
      Nearest scroll.toNat height.toNat total.toNat selected.toNat next.toNat ∧
      (next.toNat : Int) =
        max (max 0 ((selected.toNat : Int) + 1 - height.toNat))
          (min (scroll.toNat : Int) selected.toNat) ∧
      (Visible scroll.toNat height.toNat total.toNat selected.toNat → next = scroll) ∧
      scrollWord? next selected total height.toUInt64 = some next ∧
      ∀ (start : UInt64) (looks : List Look), ∃ places,
        follow? start looks = some places ∧ List.Forall₂ Look.Held looks places := by
  have rows : 0 < height.toNat := UInt16.lt_iff_toNat_lt.1 room
  have below : selected.toNat < total.toNat := UInt64.lt_iff_toNat_lt.1 listed
  rcases scrollWord?_of_short scroll listed short with ⟨next, found, same⟩
  refine ⟨next, found, same, ?nearest, ?clamp, ?stays, ?again, follow?_held⟩
  case nearest =>
    rw [same]
    exact nearest_scrollTo rows below
  case clamp =>
    rw [same, scrollTo_clamp rows below]
    omega
  case stays =>
    intro shown
    rw [← UInt64.toNat_inj, same]
    exact scrollTo_of_visible below shown
  case again =>
    rcases scrollWord?_of_short next listed short with ⟨next', found', same'⟩
    rw [found', Option.some_inj, ← UInt64.toNat_inj, same', same]
    exact scrollTo_scrollTo

/-- The list has shrunk to four entries, the last of which is selected, and the window began far
behind its end; after that the list and the window change again. -/
theorem scrollTo_nearest_shrunken :
    (0 : UInt16) < 2 ∧ (3 : UInt64) < 4 ∧ (4 : UInt64).toNat < 2 ^ 63 ∧
      Nearest 9 2 4 3 3 ∧ List.Forall₂ Look.Held
        [⟨3, 4, 2, by decide, by decide⟩, ⟨0, 4, 1, by decide, by decide⟩,
          ⟨6, 7, 5, by decide, by decide⟩] [3, 0, 2] := by
  have room : (0 : UInt16) < 2 := by decide
  have listed : (3 : UInt64) < 4 := by decide
  have short : (4 : UInt64).toNat < 2 ^ 63 := by decide
  rcases scrollTo_nearest 9 room listed short with ⟨next, found, -, nearest, -, -, -, held⟩
  have moved : scrollWord? 9 3 4 (2 : UInt16).toUInt64 = some 3 := by decide
  cases found.symm.trans moved
  rcases held 9 [⟨3, 4, 2, by decide, by decide⟩, ⟨0, 4, 1, by decide, by decide⟩,
    ⟨6, 7, 5, by decide, by decide⟩] with ⟨places, followed, all⟩
  have places_eq : follow? 9 [⟨3, 4, 2, by decide, by decide⟩, ⟨0, 4, 1, by decide, by decide⟩,
    ⟨6, 7, 5, by decide, by decide⟩] = some [3, 0, 2] := by decide
  cases followed.symm.trans places_eq
  exact ⟨room, listed, short, nearest, all⟩

/-- A window that is higher than any screen: where it ends is not a word. -/
example : scrollWord? 1 1 2 (2 ^ 64 - 1) = none := by
  decide +kernel

/-! ## Sessions -/

theorem scrollWord?_ofNat {scroll selected total rows : Nat} (begins : Within scroll total)
    (place : Within selected total) (short : total < 2 ^ 63) (low : rows < 2 ^ 16) :
    ∃ next, scrollWord? (.ofNat scroll) (.ofNat selected) (.ofNat total) (.ofNat rows) = some next ∧
      next.toNat = scrollTo scroll selected total rows := by
  have size : UInt64.size = 2 ^ 64 := rfl
  have total_eq : (UInt64.ofNat total).toNat = total := UInt64.toNat_ofNat_of_lt' (by omega)
  by_cases empty : total = 0
  · subst empty
    refine ⟨0, ?_, ?_⟩
    · rw [scrollWord?, if_pos (.inl rfl)]
    · rw [scrollTo_empty (.inl rfl)]
      rfl
  · rw [Within, if_neg empty] at begins place
    have scroll_eq : (UInt64.ofNat scroll).toNat = scroll :=
      UInt64.toNat_ofNat_of_lt' (by omega)
    have selected_eq : (UInt64.ofNat selected).toNat = selected :=
      UInt64.toNat_ofNat_of_lt' (by omega)
    have rows_eq : (UInt64.ofNat rows).toNat = rows := UInt64.toNat_ofNat_of_lt' (by omega)
    have listed : UInt64.ofNat selected < UInt64.ofNat total := by
      rw [UInt64.lt_iff_toNat_lt, selected_eq, total_eq]
      exact place
    have fits : (UInt64.ofNat total).toNat + (UInt64.ofNat rows).toNat ≤ UInt64.size := by
      rw [total_eq, rows_eq]
      omega
    rcases scrollWord?_eq (.ofNat scroll) listed fits with ⟨next, found, same⟩
    rw [scroll_eq, selected_eq, total_eq, rows_eq] at same
    exact ⟨next, found, same⟩

/-- The rows of both windows are counted in sixteen bits if those of the screen are. -/
theorem windows_low (width : Nat) {height : Nat} (low : height < 2 ^ 16) :
    (listLayout width height).1.inset.height < 2 ^ 16 ∧
      (builderLayout width height).fields.inset.height < 2 ^ 16 := by
  have list := (listLayout width height).1.inset_height_le
  have fields := (builderLayout width height).fields.inset_height_le
  simp only [listLayout, builderLayout, screenArea, Screen.Area.splitBottom,
    Screen.Area.splitColumns] at list fields ⊢
  omega

namespace Running

/-- In every run and on every screen of at most `2 ^ 16 - 1` rows, both views find the beginnings of
their windows with words, for lists of fewer than `2 ^ 63` entries. -/
theorem scroll_fits (source : Source) (defaults : Options) (world : World) (steps : List Step)
    (width : Nat) {height : Nat} (low : height < 2 ^ 16) :
    let session := ((start source defaults world).run steps).session
    (session.view = .list → session.forms.length < 2 ^ 63 →
      let drawn := session.arrange width height
      ∃ next, scrollWord? (.ofNat session.scroll) (.ofNat (session.selected.getD 0))
          (.ofNat session.forms.length) (.ofNat drawn.listArea.height) = some next ∧
        next.toNat = drawn.scroll) ∧
    (∀ bench, session.workbench = some bench → bench.fields.length < 2 ^ 63 →
      ∃ next, scrollWord? (.ofNat bench.scroll) (.ofNat bench.selected)
          (.ofNat bench.fields.length)
          (.ofNat (builderLayout width height).fields.inset.height) = some next ∧
        next.toNat = (bench.arrange width height).scroll) := by
  intro session
  have sound : session.Sound := run_sound source defaults world steps
  have rows := windows_low width low
  constructor
  · intro listed short drawn
    have nonempty : session.forms ≠ [] := sound.nonempty listed
    rcases sound.selected nonempty with ⟨index, chosen, declared⟩
    have begins : Within session.scroll session.forms.length :=
      within_of_lt (sound.scroll nonempty)
    have place : Within (session.selected.getD 0) session.forms.length := by
      rw [chosen]
      exact within_of_lt declared
    have found := scrollWord?_ofNat begins place short rows.1
    simpa only [drawn, Session.arrange, listed] using found
  · intro bench here short
    rcases sound.bench bench here with ⟨-, form, -, fit⟩
    have begins : Within bench.scroll bench.fields.length := by
      rw [fit.length]
      exact fit.scroll
    have place : Within bench.selected bench.fields.length := by
      rw [fit.length]
      exact fit.selected
    exact scrollWord?_ofNat begins place short rows.2

end Running
end FormSnippet
