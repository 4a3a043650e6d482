import FormSnippet.Session.Scroll

/-!
# Scroll — places on a list, and the window on it

A place on a list is the index of an entry.  An empty list has no entry; what points into it rests
at its beginning.

- `Within`              : places on a list
- `scrollTo_within`     : the window begins on the list
- `scrollTo_scrollTo`   : a window that has been moved stays
- `scrollTo_shows`      : the window shows the selected entry
- `window_getElem?`     : the entries in the window are those from its beginning on
-/

namespace FormSnippet

/-- The index is a place on a list of that length, or rests at the beginning of the empty list. -/
def Within (index total : Nat) : Prop :=
  if total = 0 then index = 0 else index < total

theorem within_of_lt {index total : Nat} (listed : index < total) : Within index total := by
  have nonempty : total ≠ 0 := by omega
  rw [Within, if_neg nonempty]
  exact listed

theorem within_zero (total : Nat) : Within 0 total := by
  rw [Within]
  split <;> omega

section Window

variable {scroll selected total height : Nat}

/-- Where there is nothing to show the window rests. -/
theorem scrollTo_empty (empty : total = 0 ∨ height = 0) :
    scrollTo scroll selected total height = 0 :=
  if_pos empty

/-- The window begins at the selected entry or before it, and reaches it. -/
theorem scrollTo_shows (room : 0 < height) (listed : selected < total) :
    scrollTo scroll selected total height ≤ selected ∧
      selected < scrollTo scroll selected total height + height := by
  have nonempty : ¬ (total = 0 ∨ height = 0) := by omega
  simp only [scrollTo, if_neg nonempty]
  split
  · omega
  · split
    · omega
    · omega

theorem scrollTo_lt (listed : selected < total) :
    scrollTo scroll selected total height < total := by
  rcases Nat.eq_zero_or_pos height with flat | room
  · have rests : scrollTo scroll selected total height = 0 := scrollTo_empty (.inr flat)
    omega
  · have shown : scrollTo scroll selected total height ≤ selected := (scrollTo_shows room listed).1
    omega

/-- A window that has been moved need not be moved again. -/
theorem scrollTo_scrollTo : scrollTo (scrollTo scroll selected total height) selected total height =
    scrollTo scroll selected total height := by
  by_cases empty : total = 0 ∨ height = 0
  · rw [scrollTo_empty empty, scrollTo_empty empty]
  · have bounds : 0 < total ∧ 0 < height := by omega
    unfold scrollTo
    grind

theorem scrollTo_within (place : Within selected total) :
    Within (scrollTo scroll selected total height) total := by
  by_cases empty : total = 0
  · rw [scrollTo_empty (.inl empty)]
    exact within_zero total
  · rw [Within, if_neg empty] at place
    exact within_of_lt (scrollTo_lt place)

end Window

/-! ## The entries in the window -/

section Entries

variable {α : Type} {scroll height : Nat} {entries : List α}

theorem length_window : (window scroll height entries).length =
    min (scroll + height) entries.length - scroll := by
  rw [window, windowEnd, List.length_drop, List.length_take]
  omega

theorem window_getElem? {k : Nat} (listed : k < (window scroll height entries).length) :
    (window scroll height entries)[k]? = entries[scroll + k]? := by
  rw [length_window] at listed
  rw [window, windowEnd, List.getElem?_drop, List.getElem?_take_of_lt (by omega)]

end Entries
end FormSnippet
