import FormSnippet.Screen.Entries

/-!
# Entries — where the entries of a list are placed

The entries that are shown are a stretch of the list, one below the other, and they fit the rows
that there are.  Entries of one row each, of which there are not too many, are all shown, each in the
row of its own number.

- `rowsBetween`             : the rows of a stretch
- `mem_placementsFrom`      : a placement comes below the entries before it
- `placement_fits`          : no placement sticks out at the bottom
- `mem_placements_of_rows`  : placements of entries of one row each
- `RowShows`                : which entry a row shows
- `rowShows_one_by_one_iff` : when the rows show the entries one by one
-/

namespace FormSnippet
namespace Screen

/-! ## Rows of a stretch -/

theorem total_append (sizes more : List Nat) : total (sizes ++ more) = total sizes + total more := by
  induction sizes with
  | nil => exact (Nat.zero_add (total more)).symm
  | cons size sizes ih =>
      have first : total (size :: sizes ++ more) = size + total (sizes ++ more) := rfl
      have whole : total (size :: sizes) = size + total sizes := rfl
      rw [first, whole, ih, Nat.add_assoc]

/-- The rows that the entries from `first` up to but not including `last` take. -/
def rowsBetween (heights : List Nat) (first last : Nat) : Nat :=
  total ((heights.take last).drop first)

section Rows

variable {heights : List Nat} {room first last used : Nat}

theorem rowsBetween_of_le (empty : last ≤ first) : rowsBetween heights first last = 0 := by
  have short : (heights.take last).length ≤ first := by
    rw [List.length_take]
    omega
  rw [rowsBetween, List.drop_eq_nil_of_le short]
  rfl

theorem rowsBetween_succ_right (ordered : first ≤ last) :
    rowsBetween heights first (last + 1) =
      rowsBetween heights first last + heights.getD last 0 := by
  by_cases listed : last < heights.length
  · have reached : first ≤ (heights.take last).length := by
      rw [List.length_take]
      omega
    have next : heights.getD last 0 = total [heights[last]] := by
      rw [List.getD_eq_getElem?_getD, List.getElem?_eq_getElem listed]
      rfl
    rw [rowsBetween, List.take_add_one, List.getElem?_eq_getElem listed, Option.toList_some,
      List.drop_append_of_le_length reached, total_append, next]
    rfl
  · have beyond : heights.length ≤ last := by omega
    rw [rowsBetween, rowsBetween, List.take_of_length_le beyond,
      List.take_of_length_le (by omega), List.getD_eq_getElem?_getD,
      List.getElem?_eq_none beyond]
    rfl

theorem rowsBetween_succ_left (ordered : first < last) :
    rowsBetween heights first last =
      heights.getD first 0 + rowsBetween heights (first + 1) last := by
  by_cases listed : first < heights.length
  · have reached : first < (heights.take last).length := by
      rw [List.length_take]
      omega
    have next : heights.getD first 0 = (heights.take last)[first] := by
      rw [List.getD_eq_getElem?_getD, List.getElem?_eq_getElem listed, List.getElem_take]
      rfl
    rw [rowsBetween, List.drop_eq_getElem_cons reached, next]
    rfl
  · have beyond : heights.length ≤ first := by omega
    have short : (heights.take last).length ≤ first := by
      rw [List.length_take]
      omega
    rw [rowsBetween, rowsBetween, List.drop_eq_nil_of_le short,
      List.drop_eq_nil_of_le (by omega), List.getD_eq_getElem?_getD, List.getElem?_eq_none beyond]
    rfl

/-! ## The entries that are shown fit -/

theorem fitting_fits (room : Nat) (heights : List Nat) :
    fitting room heights ≤ heights.length ∧ total (heights.take (fitting room heights)) ≤ room := by
  induction heights generalizing room with
  | nil => exact ⟨Nat.le_refl 0, Nat.zero_le room⟩
  | cons height rest ih =>
      rw [fitting]
      split
      · exact ⟨Nat.zero_le _, Nat.zero_le room⟩
      · rcases ih (room - height) with ⟨listed, fits⟩
        have whole : total ((height :: rest).take (fitting (room - height) rest + 1)) =
            height + total (rest.take (fitting (room - height) rest)) := rfl
        rw [whole, List.length_cons]
        omega

/-- `used` is kept as the number of rows, and in the end it is not too much. -/
theorem dropFront_fits (room fuel : Nat) (counted : used = rowsBetween heights first last)
    (ordered : first ≤ last) (enough : last - first ≤ fuel) :
    let left := dropFront heights room first used fuel
    left.2 = rowsBetween heights left.1 last ∧ left.1 ≤ last ∧ left.2 ≤ room := by
  -- An empty stretch takes no rows, so the dropping ends before the fuel does.
  induction fuel generalizing first used with
  | zero =>
      have empty : rowsBetween heights first last = 0 := rowsBetween_of_le (by omega)
      refine ⟨counted, ordered, ?_⟩
      change used ≤ room
      omega
  | succ fuel ih =>
      rw [dropFront]
      split
      · next full =>
          have nonempty : first < last := by
            rcases Nat.lt_or_ge first last with nonempty | empty
            · exact nonempty
            · have nothing : rowsBetween heights first last = 0 := rowsBetween_of_le empty
              omega
          have rest : rowsBetween heights first last =
              heights.getD first 0 + rowsBetween heights (first + 1) last :=
            rowsBetween_succ_left nonempty
          exact ih (by omega) nonempty (by omega)
      · exact ⟨counted, ordered, by omega⟩

theorem dropBack_fits (room fuel : Nat) (counted : used = rowsBetween heights first last)
    (ordered : first ≤ last) (enough : last - first ≤ fuel) :
    let left := dropBack heights room last used fuel
    left.2 = rowsBetween heights first left.1 ∧ first ≤ left.1 ∧ left.1 ≤ last ∧
      left.2 ≤ room := by
  induction fuel generalizing last used with
  | zero =>
      have empty : rowsBetween heights first last = 0 := rowsBetween_of_le (by omega)
      refine ⟨counted, ordered, Nat.le_refl last, ?_⟩
      change used ≤ room
      omega
  | succ fuel ih =>
      rw [dropBack]
      split
      · next full =>
          have nonempty : first < last := by
            rcases Nat.lt_or_ge first last with nonempty | empty
            · exact nonempty
            · have nothing : rowsBetween heights first last = 0 := rowsBetween_of_le empty
              omega
          have rest : rowsBetween heights first last =
              rowsBetween heights first (last - 1) + heights.getD (last - 1) 0 := by
            rw [← rowsBetween_succ_right (by omega), Nat.sub_add_cancel (by omega)]
          have fewer : used - heights.getD (last - 1) 0 = rowsBetween heights first (last - 1) := by
            omega
          rcases ih fewer (by omega) (by omega) with ⟨counted, ordered, shorter, fits⟩
          exact ⟨counted, ordered, by omega, fits⟩
      · exact ⟨counted, ordered, Nat.le_refl last, by omega⟩

/-- A stretch of the list, with its number of rows, that fits. -/
structure Fits (heights : List Nat) (room first last used : Nat) : Prop where
  counted : used = rowsBetween heights first last
  ordered : first ≤ last
  listed : last ≤ heights.length
  fits : used ≤ room

theorem extendTo_fits {selected fuel : Nat} (fits : Fits heights room first last used)
    (listed : selected < heights.length) :
    let shown := extendTo heights room selected first last used fuel
    Fits heights room shown.1 shown.2.1 shown.2.2 := by
  induction fuel generalizing first last used with
  | zero => exact fits
  | succ fuel ih =>
      rw [extendTo]
      split
      · exact fits
      · next hidden =>
          -- With the entry behind it the stretch may be too high, until entries are dropped.
          have next : used + heights.getD last 0 = rowsBetween heights first (last + 1) := by
            rw [rowsBetween_succ_right fits.ordered, fits.counted]
          have ordered := fits.ordered
          have left := dropFront_fits room heights.length next (by omega) (by omega)
          exact ih ⟨left.1, left.2.1, by omega, left.2.2⟩

theorem extendBack_fits {selected fuel : Nat} (fits : Fits heights room first last used) :
    let shown := extendBack heights room selected first last used fuel
    rowsBetween heights shown.1 shown.2 ≤ room ∧ shown.2 ≤ heights.length := by
  induction fuel generalizing first last used with
  | zero => exact ⟨fits.counted ▸ fits.fits, fits.listed⟩
  | succ fuel ih =>
      rw [extendBack]
      split
      · exact ⟨fits.counted ▸ fits.fits, fits.listed⟩
      · next hidden =>
          have ordered := fits.ordered
          have listed := fits.listed
          have before : used + heights.getD (first - 1) 0 = rowsBetween heights (first - 1) last := by
            rw [rowsBetween_succ_left (by omega), Nat.sub_add_cancel (by omega), fits.counted,
              Nat.add_comm]
          rcases dropBack_fits room heights.length before (by omega) (by omega) with
            ⟨counted, ordered, shorter, fits⟩
          exact ih ⟨counted, ordered, by omega, fits⟩

theorem visibleRange_fits (heights : List Nat) (room : Nat) (selected : Option Nat) :
    let shown := visibleRange heights room selected
    rowsBetween heights shown.1 shown.2 ≤ room ∧ shown.2 ≤ heights.length := by
  rcases fitting_fits room heights with ⟨listed, fits⟩
  have first : Fits heights room 0 (fitting room heights)
      (total (heights.take (fitting room heights))) := ⟨rfl, Nat.zero_le _, listed, fits⟩
  rcases Nat.eq_zero_or_pos heights.length with empty | nonempty
  · obtain rfl := List.length_eq_zero_iff.1 empty
    exact ⟨Nat.zero_le room, Nat.le_refl 0⟩
  · have target : min (selected.getD 0) (heights.length - 1) < heights.length := by omega
    exact extendBack_fits (extendTo_fits first target)

end Rows

/-! ## Placements -/

theorem mem_placementsFrom {placement : Placement} {index row : Nat} {entries : List Entry} :
    placement ∈ placementsFrom index row entries ↔
      ∃ k, placement.index = index + k ∧ entries[k]? = some placement.entry ∧
        placement.row = row + total ((entries.take k).map List.length) := by
  induction entries generalizing index row with
  | nil => simp [placementsFrom]
  | cons entry rest ih =>
      rw [placementsFrom, List.mem_cons, ih]
      constructor
      · rintro (rfl | ⟨k, index_eq, found, row_eq⟩)
        · exact ⟨0, rfl, rfl, rfl⟩
        · refine ⟨k + 1, by omega, found, ?_⟩
          have whole : total (((entry :: rest).take (k + 1)).map List.length) =
              entry.length + total ((rest.take k).map List.length) := rfl
          rw [row_eq, whole, Nat.add_assoc]
      · rintro ⟨k, index_eq, found, row_eq⟩
        cases k with
        | zero =>
            left
            rcases placement with ⟨placed, top, shown⟩
            cases index_eq
            cases row_eq
            cases found
            rfl
        | succ k =>
            right
            have whole : total (((entry :: rest).take (k + 1)).map List.length) =
                entry.length + total ((rest.take k).map List.length) := rfl
            rw [whole] at row_eq
            exact ⟨k, by omega, found, by omega⟩

/-- Each placement begins below the ones before it. -/
theorem placementsFrom_apart (index row : Nat) (entries : List Entry) :
    (placementsFrom index row entries).Pairwise
      fun upper lower => upper.row + upper.entry.length ≤ lower.row := by
  induction entries generalizing index row with
  | nil => exact .nil
  | cons entry rest ih =>
      rw [placementsFrom, List.pairwise_cons]
      refine ⟨?_, ih _ _⟩
      intro lower placed
      rcases mem_placementsFrom.1 placed with ⟨k, -, -, row_eq⟩
      change row + entry.length ≤ lower.row
      omega

theorem placements_apart (entries : List Entry) (room : Nat) (selected : Option Nat) :
    (placements entries room selected).Pairwise
      fun upper lower => upper.row + upper.entry.length ≤ lower.row :=
  placementsFrom_apart _ _ _

theorem total_take_le (sizes : List Nat) (k : Nat) : total (sizes.take k) ≤ total sizes := by
  have whole : total sizes = total (sizes.take k) + total (sizes.drop k) := by
    rw [← total_append, List.take_append_drop]
  omega

/-- A placement shows the entry of its index, and ends where the rows do or before that. -/
theorem placement_fits {entries : List Entry} {room : Nat} {selected : Option Nat}
    {placement : Placement} (placed : placement ∈ placements entries room selected) :
    entries[placement.index]? = some placement.entry ∧
      placement.row + placement.entry.length ≤ room := by
  rcases visibleRange_fits (entries.map List.length) room selected with ⟨fits, -⟩
  unfold placements at placed
  generalize visibleRange (entries.map List.length) room selected = range at fits placed
  rcases range with ⟨first, last⟩
  dsimp only at fits
  rcases mem_placementsFrom.1 placed with ⟨k, index_eq, found, row_eq⟩
  have listed : k < last - first := by
    have short := (List.getElem?_eq_some_iff.1 found).1
    rw [List.length_take] at short
    omega
  constructor
  · rw [List.getElem?_take_of_lt listed, List.getElem?_drop] at found
    rw [index_eq, found]
  · -- With its own rows a placement ends where the first `k + 1` entries of the stretch do.
    generalize shown_eq : (entries.drop first).take (last - first) = shown at found row_eq
    have stretch : rowsBetween (entries.map List.length) first last =
        total (shown.map List.length) := by
      rw [rowsBetween, List.drop_take, ← List.map_drop, ← List.map_take, shown_eq]
    have ended : total ((shown.take (k + 1)).map List.length) =
        total ((shown.take k).map List.length) + placement.entry.length := by
      rw [List.take_add_one, found, List.map_append, total_append]
      rfl
    have within : total ((shown.take (k + 1)).map List.length) ≤ total (shown.map List.length) := by
      rw [List.map_take]
      exact total_take_le _ _
    omega

/-! ## Entries of one row each -/

theorem fitting_of_rows {room : Nat} {heights : List Nat} (rows : ∀ height ∈ heights, height = 1)
    (fits : heights.length ≤ room) : fitting room heights = heights.length := by
  induction heights generalizing room with
  | nil => rfl
  | cons height rest ih =>
      have one : height = 1 := rows height (List.mem_cons_self ..)
      rw [List.length_cons] at fits
      have behind : fitting (room - height) rest = rest.length :=
        ih (fun other mem => rows other (List.mem_cons_of_mem _ mem)) (by omega)
      rw [fitting, if_neg (by omega), behind, List.length_cons]

theorem extendTo_of_lt {heights : List Nat} {room selected first last used fuel : Nat}
    (shown : selected < last) :
    extendTo heights room selected first last used fuel = (first, last, used) := by
  cases fuel with
  | zero => rfl
  | succ fuel => rw [extendTo, if_pos shown]

theorem extendBack_of_le {heights : List Nat} {room selected first last used fuel : Nat}
    (shown : first ≤ selected) :
    extendBack heights room selected first last used fuel = (first, last) := by
  cases fuel with
  | zero => rfl
  | succ fuel => rw [extendBack, if_pos shown]

theorem visibleRange_of_rows {heights : List Nat} {room : Nat}
    (rows : ∀ height ∈ heights, height = 1) (fits : heights.length ≤ room)
    (selected : Option Nat) : visibleRange heights room selected = (0, heights.length) := by
  rcases Nat.eq_zero_or_pos heights.length with empty | nonempty
  · obtain rfl := List.length_eq_zero_iff.1 empty
    rfl
  · have target : min (selected.getD 0) (heights.length - 1) < heights.length := by omega
    unfold visibleRange
    rw [fitting_of_rows rows fits]
    dsimp only
    rw [extendTo_of_lt target, extendBack_of_le (Nat.zero_le _)]

theorem total_of_rows {sizes : List Nat} (rows : ∀ size ∈ sizes, size = 1) :
    total sizes = sizes.length := by
  induction sizes with
  | nil => rfl
  | cons size rest ih =>
      have one : size = 1 := rows size (List.mem_cons_self ..)
      have behind : total rest = rest.length :=
        ih fun other mem => rows other (List.mem_cons_of_mem _ mem)
      have whole : total (size :: rest) = size + total rest := rfl
      rw [whole, behind, one, List.length_cons, Nat.add_comm]

/-- Entries of one row each that fit are all placed, each in the row of its number. -/
theorem mem_placements_of_rows {entries : List Entry} {room : Nat}
    (rows : ∀ entry ∈ entries, entry.length = 1) (fits : entries.length ≤ room)
    (selected : Option Nat) {placement : Placement} :
    placement ∈ placements entries room selected ↔
      placement.row = placement.index ∧ entries[placement.index]? = some placement.entry := by
  have all : visibleRange (entries.map List.length) room selected = (0, entries.length) := by
    rw [visibleRange_of_rows _ (by rwa [List.length_map]), List.length_map]
    intro height mem
    rcases List.mem_map.1 mem with ⟨entry, listed, rfl⟩
    exact rows entry listed
  have placed : placements entries room selected = placementsFrom 0 0 entries := by
    unfold placements
    rw [all]
    dsimp only
    rw [List.drop_zero, Nat.sub_zero, List.take_length]
  have before {k : Nat} (listed : k < entries.length) :
      total ((entries.take k).map List.length) = k := by
    rw [total_of_rows, List.length_map, List.length_take, Nat.min_eq_left (by omega)]
    intro height mem
    rcases List.mem_map.1 mem with ⟨entry, listed, rfl⟩
    exact rows entry (List.mem_of_mem_take listed)
  rw [placed, mem_placementsFrom]
  constructor
  · rintro ⟨k, index_eq, found, row_eq⟩
    have listed : k < entries.length := (List.getElem?_eq_some_iff.1 found).1
    rw [before listed] at row_eq
    rw [Nat.zero_add] at index_eq row_eq
    rw [index_eq, row_eq]
    exact ⟨rfl, found⟩
  · rintro ⟨row_eq, found⟩
    have listed : placement.index < entries.length := (List.getElem?_eq_some_iff.1 found).1
    exact ⟨placement.index, by omega, found, by rw [before listed, row_eq, Nat.zero_add]⟩

/-! ## Which entry a row shows -/

/-- The rows of a placement, counted as its own row is. -/
def Placement.Covers (placement : Placement) (row : Nat) : Prop :=
  placement.row ≤ row ∧ row < placement.row + placement.entry.length

/-- The row is one of those of the entry of that index. -/
def RowShows (entries : List Entry) (room : Nat) (selected : Option Nat) (row index : Nat) : Prop :=
  ∃ placement ∈ placements entries room selected,
    placement.index = index ∧ placement.Covers row

/-- A row that shows an entry is one of those that there are. -/
theorem RowShows.lt {entries : List Entry} {room row index : Nat} {selected : Option Nat}
    (shown : RowShows entries room selected row index) : row < room ∧ index < entries.length := by
  rcases shown with ⟨placement, placed, rfl, covered⟩
  rcases placement_fits placed with ⟨found, fits⟩
  have above : row < placement.row + placement.entry.length := covered.2
  exact ⟨by omega, (List.getElem?_eq_some_iff.1 found).1⟩

/-- The rows show the entries one by one, from the first row and the first entry on, exactly if each
entry takes one row. -/
theorem rowShows_one_by_one_iff {entries : List Entry} {room : Nat} (fits : entries.length ≤ room)
    (selected : Option Nat) :
    (∀ row index, RowShows entries room selected row index ↔
      index = row ∧ index < entries.length) ↔
      ∀ entry ∈ entries, entry.length = 1 := by
  constructor
  · intro one entry mem
    rcases List.getElem_of_mem mem with ⟨index, listed, found⟩
    rcases (one index index).2 ⟨rfl, listed⟩ with ⟨placement, placed, rfl, here⟩
    have same : placement.entry = entry := by
      have shown := (placement_fits placed).1
      rw [List.getElem?_eq_getElem listed, found] at shown
      exact (Option.some.inj shown).symm
    -- Both the first and the last row of the placement are that of its index.
    rw [Placement.Covers, same] at here
    have upper : placement.index = placement.row :=
      ((one _ _).1 ⟨placement, placed, rfl, Nat.le_refl _, by rw [same]; omega⟩).1
    have lower : placement.index = placement.row + entry.length - 1 :=
      ((one _ _).1 ⟨placement, placed, rfl, by omega, by rw [same]; omega⟩).1
    omega
  · -- Entries of one row each are placed in the rows of their numbers.
    intro rows row index
    constructor
    · rintro ⟨placement, placed, rfl, here⟩
      rcases (mem_placements_of_rows rows fits selected).1 placed with ⟨row_eq, found⟩
      have single : placement.entry.length = 1 := rows _ (List.mem_of_getElem? found)
      rw [Placement.Covers] at here
      exact ⟨by omega, (List.getElem?_eq_some_iff.1 found).1⟩
    · rintro ⟨rfl, listed⟩
      have placed : ⟨index, index, entries[index]⟩ ∈ placements entries room selected :=
        (mem_placements_of_rows rows fits selected).2 ⟨rfl, List.getElem?_eq_getElem listed⟩
      have single : entries[index].length = 1 := rows _ (List.getElem_mem listed)
      refine ⟨_, placed, rfl, Nat.le_refl _, ?_⟩
      change index < index + entries[index].length
      omega

end Screen
end FormSnippet
