/-!
# Action — what may be done to a network of cells

A network is a family of cells indexed by `ι`; the cell `i` holds a value of type `V i`.  Beside the
cells there is a memory of type `σ`, in which callbacks keep whatever they want to keep.

An `Action` is a finite tree of operations: each operation hands its result to the rest of the tree.
A callback is a function from the value that is delivered to the action that it performs, so a
callback may do everything that can be done from outside, to any cell, its own included.
-/

namespace FormSnippet
namespace Network

inductive Action (ι : Type) (V : ι → Type) (σ : Type) : Type
  /-- Nothing more. -/
  | done
  /-- Hands over the value of a cell, or `none` if the cell is gone. -/
  | get (i : ι) (next : Option (V i) → Action ι V σ)
  /-- Stores a value and has it delivered; `false` if the cell is gone. -/
  | set (i : ι) (value : V i) (next : Bool → Action ι V σ)
  /-- Calls the callback with the value of the cell and then registers it; hands over its number. -/
  | subscribe (i : ι) (callback : V i → Action ι V σ) (next : Option Nat → Action ι V σ)
  /-- Withdraws the registration of that number; `false` if the cell is gone. -/
  | unsubscribe (i : ι) (id : Nat) (next : Bool → Action ι V σ)
  /-- Hands over the memory. -/
  | recall (next : σ → Action ι V σ)
  /-- Changes the memory. -/
  | note (change : σ → σ) (next : Action ι V σ)

namespace Action

variable {ι : Type} {V : ι → Type} {σ : Type}

/-- Replaces the value of a cell by a function of it. -/
def update (i : ι) (f : V i → V i) (next : Bool → Action ι V σ) : Action ι V σ :=
  .get i fun
    | none => next false
    | some value => .set i (f value) next

/-- Replaces the value of a cell if `f` gives a new one, and otherwise leaves the cell alone without
any delivery.  Hands over whether there was a new value, or `none` if the cell is gone. -/
def updateIf (i : ι) (f : V i → Option (V i)) (next : Option Bool → Action ι V σ) :
    Action ι V σ :=
  .get i fun
    | none => next none
    | some value =>
        match f value with
        | none => next (some false)
        | some value => .set i value fun _ => next (some true)

end Action
end Network
end FormSnippet
