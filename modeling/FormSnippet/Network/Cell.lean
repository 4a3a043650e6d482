import FormSnippet.Network.Action

/-!
# Cell — observable values

A cell holds a value and the subscribers that are told of its changes.  Subscribers are told in
rounds: a round takes the whole list of subscribers out of the cell and calls them one after the
other, and what happens to the cell in the meantime is kept in three fields until the round ends.

- a value that is stored during a round only marks the cell as `dirty`, which asks for another round
- a subscriber that is registered during a round goes into the list of the cell
- a subscriber that is withdrawn during a round is recorded in `removed`

`Cell.beginRound` and `Cell.endRound` say how a round takes the list out and puts it back.
-/

namespace FormSnippet
namespace Network

/-! ## Cells -/

structure Subscriber (ι : Type) (V : ι → Type) (σ : Type) (i : ι) where
  id : Nat
  callback : V i → Action ι V σ

structure Cell (ι : Type) (V : ι → Type) (σ : Type) (i : ι) where
  value : V i
  subscribers : List (Subscriber ι V σ i)
  nextId : Nat
  notifying : Bool
  dirty : Bool
  removed : List Nat

namespace Cell

variable {ι : Type} {V : ι → Type} {σ : Type} {i : ι}

def new (value : V i) : Cell ι V σ i :=
  { value
    subscribers := []
    nextId := 0
    notifying := false
    dirty := false
    removed := [] }

/-- Registers a callback for later changes. -/
def observe (cell : Cell ι V σ i) (callback : V i → Action ι V σ) : Cell ι V σ i :=
  { cell with
    subscribers := cell.subscribers ++ [⟨cell.nextId, callback⟩]
    nextId := cell.nextId + 1 }

def withdraw (cell : Cell ι V σ i) (id : Nat) : Cell ι V σ i :=
  { cell with
    subscribers := cell.subscribers.filter (·.id ≠ id)
    removed := if cell.notifying then cell.removed ++ [id] else cell.removed }

/-! ## Rounds -/

/-- The cell while a round runs that has just taken the subscribers out of it. -/
def beginRound (cell : Cell ι V σ i) : Cell ι V σ i :=
  { cell with
    subscribers := []
    notifying := true
    dirty := false }

/-- The cell after a round that called or passed over `called`: those of them that are not withdrawn
come back, in front of the subscribers that joined during the round. -/
def endRound (cell : Cell ι V σ i) (called : List (Subscriber ι V σ i)) : Cell ι V σ i :=
  { cell with
    subscribers := called.filter (fun s => s.id ∉ cell.removed) ++ cell.subscribers
    removed := [] }

end Cell

/-! ## Families of cells -/

/-- The cells of a network; `none` stands for a cell that is gone. -/
abbrev Cells (ι : Type) (V : ι → Type) (σ : Type) : Type :=
  (i : ι) → Option (Cell ι V σ i)

namespace Cells

variable {ι : Type} [DecidableEq ι] {V : ι → Type} {σ : Type}

/-- The same cells except that of `i`. -/
def put (cells : Cells ι V σ) (i : ι) (cell : Option (Cell ι V σ i)) : Cells ι V σ :=
  fun j => if h : j = i then h ▸ cell else cells j

@[simp] theorem put_same (cells : Cells ι V σ) (i : ι) (cell : Option (Cell ι V σ i)) :
    cells.put i cell i = cell := by
  simp [put]

theorem put_other (cells : Cells ι V σ) {i j : ι} (cell : Option (Cell ι V σ i)) (h : j ≠ i) :
    cells.put i cell j = cells j := by
  simp [put, h]

end Cells
end Network
end FormSnippet
