import FormSnippet.Screen.Area

/-!
# Area — places in an area, and what a border leaves of it

Views draw a border around an area, and other parts of the program compute the area inside once more.
The two ways of taking a border off agree as soon as there is room for something inside.

- `Area.contains_iff`       : the places of an area
- `Area.isEmpty_iff`        : areas without places
- `Area.inset_eq_framed`    : the two ways of taking a border off
-/

namespace FormSnippet
namespace Screen
namespace Area

variable {area : Area} {x y : Nat}

/-! ## Places -/

theorem contains_iff :
    area.contains x y = true ↔ area.x ≤ x ∧ x < area.right ∧ area.y ≤ y ∧ y < area.bottom := by
  simp [contains, and_assoc]

theorem isEmpty_iff : area.isEmpty = true ↔ area.width = 0 ∨ area.height = 0 := by
  rw [isEmpty, Bool.or_eq_true, decide_eq_true_eq, decide_eq_true_eq]

theorem not_isEmpty_of_contains (inside : area.contains x y = true) : ¬ area.isEmpty = true := by
  rw [contains_iff, right, bottom] at inside
  rw [isEmpty_iff]
  omega

theorem contains_corner (nonempty : ¬ area.isEmpty = true) :
    area.contains area.x area.y = true := by
  rw [isEmpty_iff] at nonempty
  rw [contains_iff, right, bottom]
  omega

/-! ## Borders -/

theorem inset_height_le (area : Area) : area.inset.height ≤ area.height := by
  unfold inset
  dsimp only
  split <;> split <;> simp

/-- With room for something inside the border, it does not matter how it is taken off. -/
theorem inset_eq_framed (nonempty : ¬ area.framed.isEmpty = true) : area.inset = area.framed := by
  rw [isEmpty_iff] at nonempty
  simp only [framed] at nonempty
  have wide : 2 ≤ area.width := by omega
  have high : 2 ≤ area.height := by omega
  have left : min (area.x + 1) area.right = area.x + 1 := by
    rw [right]
    omega
  have upper : min (area.y + 1) area.bottom = area.y + 1 := by
    rw [bottom]
    omega
  simp only [inset, framed, if_pos wide, if_pos high, left, upper]

theorem framed_isEmpty (empty : area.inset.isEmpty = true) : area.framed.isEmpty = true := by
  apply Decidable.byContradiction
  intro nonempty
  rw [inset_eq_framed nonempty] at empty
  exact nonempty empty

end Area
end Screen
end FormSnippet
