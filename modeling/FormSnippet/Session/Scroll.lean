/-!
# Scroll — the window on a list

A list of `total` entries is seen through a window of `height` rows that begins at entry `scroll`.
The rows of a screen and the entries of a list in memory are so few that nothing here leaves the
words of a machine (`Running.scroll_fits`).
-/

namespace FormSnippet

/-- The beginning of the window, moved as little as needed to show the selected entry. -/
def scrollTo (scroll selected total height : Nat) : Nat :=
  if total = 0 ∨ height = 0 then 0
  else
    let scroll := min scroll (total - 1)
    if selected < scroll then selected
    else if selected ≥ scroll + height then selected + 1 - height
    else scroll

/-- The end of the window, which does not lie behind the last entry. -/
def windowEnd (scroll total height : Nat) : Nat :=
  min (scroll + height) total

/-- The entries in the window. -/
def window {α : Type} (scroll height : Nat) (entries : List α) : List α :=
  (entries.take (windowEnd scroll entries.length height)).drop scroll

end FormSnippet
