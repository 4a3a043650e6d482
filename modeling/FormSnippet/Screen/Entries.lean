import FormSnippet.Screen.Frame

/-!
# Entries — lists of which one entry is selected

An entry takes one row for each of its lines.  Entries are shown from the first one on, as many as
fit as a whole; if the selected entry is not among them, entries are left out at the front until it
is.

- `visibleRange`    : which entries are shown
- `placements`      : the row at which each of them begins
- `drawEntries`     : the entries, with the selected one painted
-/

namespace FormSnippet
namespace Screen

abbrev Entry : Type :=
  List Line

/-! ## Which entries are shown -/

/-- How many entries fit `room` rows, from the first one on. -/
def fitting : Nat → List Nat → Nat
  | _, [] => 0
  | room, height :: rest => if height > room then 0 else fitting (room - height) rest + 1

/-- The entries from `first` up to `last`, `used` rows high, without entries at the front until they
fit `room` rows; the result is the first entry that is left. -/
def dropFront (heights : List Nat) (room first used : Nat) : Nat → Nat × Nat
  | 0 => (first, used)
  | fuel + 1 =>
      if used > room then dropFront heights room (first + 1) (used - heights.getD first 0) fuel
      else (first, used)

/-- Takes in entries behind `last` until the selected one is among them. -/
def extendTo (heights : List Nat) (room selected : Nat) :
    (first last used : Nat) → (fuel : Nat) → Nat × Nat × Nat
  | first, last, used, 0 => (first, last, used)
  | first, last, used, fuel + 1 =>
      if selected < last then (first, last, used)
      else
        let (first, used) :=
          dropFront heights room first (used + heights.getD last 0) heights.length
        extendTo heights room selected first (last + 1) used fuel

/-- Leaves out entries at the end until those from `first` on fit. -/
def dropBack (heights : List Nat) (room last used : Nat) : Nat → Nat × Nat
  | 0 => (last, used)
  | fuel + 1 =>
      if used > room then dropBack heights room (last - 1) (used - heights.getD (last - 1) 0) fuel
      else (last, used)

/-- Takes entries in at the front until the selected one is among them. -/
def extendBack (heights : List Nat) (room selected : Nat) :
    (first last used : Nat) → (fuel : Nat) → Nat × Nat
  | first, last, _, 0 => (first, last)
  | first, last, used, fuel + 1 =>
      if first ≤ selected then (first, last)
      else
        let (last, used) :=
          dropBack heights room last (used + heights.getD (first - 1) 0) heights.length
        extendBack heights room selected (first - 1) last used fuel

/-- The entries shown in `room` rows: from the first number up to but not including the second. -/
def visibleRange (heights : List Nat) (room : Nat) (selected : Option Nat) : Nat × Nat :=
  let last := fitting room heights
  let used := total (heights.take last)
  let target := min (selected.getD 0) (heights.length - 1)
  let (first, last, used) := extendTo heights room target 0 last used heights.length
  extendBack heights room target first last used heights.length

/-! ## Where they are shown -/

/-- An entry on the screen: its index, and the row at which it begins, counted from the first. -/
structure Placement where
  index : Nat
  row : Nat
  entry : Entry

def placementsFrom : (index row : Nat) → List Entry → List Placement
  | _, _, [] => []
  | index, row, entry :: rest =>
      ⟨index, row, entry⟩ :: placementsFrom (index + 1) (row + entry.length) rest

def placements (entries : List Entry) (room : Nat) (selected : Option Nat) : List Placement :=
  let (first, last) := visibleRange (entries.map List.length) room selected
  placementsFrom first 0 ((entries.drop first).take (last - first))

/-! ## Drawing -/

def drawEntry (area : Area) (highlight : Style) (selected : Option Nat) (canvas : Canvas)
    (placement : Placement) : Canvas :=
  let top := area.y + placement.row
  let canvas :=
    placement.entry.zipIdx.foldl
      (fun canvas (line, k) => line.draw { area with y := top + k, height := 1 } canvas) canvas
  if selected = some placement.index then
    canvas.paint { area with y := top, height := placement.entry.length } highlight
  else canvas

def drawEntries (entries : List Entry) (selected : Option Nat) (highlight : Style) (area : Area)
    (canvas : Canvas) : Canvas :=
  if area.isEmpty then canvas
  else (placements entries area.height selected).foldl (drawEntry area highlight selected) canvas

end Screen
end FormSnippet
