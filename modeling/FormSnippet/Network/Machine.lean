import FormSnippet.Network.Cell

/-!
# Machine — running actions on a network

An action runs on a stack of frames, since a delivery interrupts the action that stored the value
and a callback may store values itself.  A frame is the rest of an action, a round of deliveries, or
a registration that waits for the first call of its callback to end.

- `Machine.step`  : one step of the top frame
- `Machine.run`   : a number of steps, or fewer if the stack is empty before
- `perform?`      : an action from beginning to end; `none` if it does not end within the limit
-/

namespace FormSnippet
namespace Network

variable {ι : Type} {V : ι → Type} {σ : Type}

/-! ## Machines -/

inductive Frame (ι : Type) (V : ι → Type) (σ : Type)
  /-- The rest of an action. -/
  | act (action : Action ι V σ)
  /-- A round of cell `i` that delivers `value`: the subscribers it is through with, and those that
  still wait for their turn. -/
  | round (i : ι) (value : V i) (called pending : List (Subscriber ι V σ i))
  /-- The registration of a callback whose first call is running above. -/
  | enrol (i : ι) (callback : V i → Action ι V σ) (next : Option Nat → Action ι V σ)

structure Machine (ι : Type) (V : ι → Type) (σ : Type) where
  cells : Cells ι V σ
  memory : σ
  stack : List (Frame ι V σ)

namespace Machine

variable [DecidableEq ι]

/-! ## Steps -/

/-- Begins a round of cell `i` on top of the stack. -/
def beginRound (m : Machine ι V σ) (i : ι) (cell : Cell ι V σ i) (rest : List (Frame ι V σ)) :
    Machine ι V σ :=
  { m with
    cells := m.cells.put i (some cell.beginRound)
    stack := .round i cell.value [] cell.subscribers :: rest }

/-- Stores a value.  During a round of the cell it waits for the next round; otherwise a round
begins, and the action goes on when that has ended. -/
def store (m : Machine ι V σ) (i : ι) (value : V i) (next : Bool → Action ι V σ)
    (rest : List (Frame ι V σ)) : Machine ι V σ :=
  match m.cells i with
  | none => { m with stack := .act (next false) :: rest }
  | some cell =>
      if cell.notifying then
        { m with
          cells := m.cells.put i (some { cell with value, dirty := true })
          stack := .act (next true) :: rest }
      else
        m.beginRound i { cell with value } (.act (next true) :: rest)

def stepAction (m : Machine ι V σ) (action : Action ι V σ) (rest : List (Frame ι V σ)) :
    Machine ι V σ :=
  match action with
  | .done => { m with stack := rest }
  | .get i next => { m with stack := .act (next ((m.cells i).map (·.value))) :: rest }
  | .set i value next => m.store i value next rest
  | .subscribe i callback next =>
      match m.cells i with
      | none => { m with stack := .act (next none) :: rest }
      | some cell =>
          { m with stack := .act (callback cell.value) :: .enrol i callback next :: rest }
  | .unsubscribe i id next =>
      match m.cells i with
      | none => { m with stack := .act (next false) :: rest }
      | some cell =>
          { m with
            cells := m.cells.put i (some (cell.withdraw id))
            stack := .act (next true) :: rest }
  | .recall next => { m with stack := .act (next m.memory) :: rest }
  | .note change next => { m with memory := change m.memory, stack := .act next :: rest }

/-- A round passes over a subscriber that has been withdrawn before its turn.  When none is left the
list goes back into the cell, and a dirty cell begins another round at once. -/
def stepRound (m : Machine ι V σ) (i : ι) (value : V i) (called pending : List (Subscriber ι V σ i))
    (rest : List (Frame ι V σ)) : Machine ι V σ :=
  match m.cells i with
  | none => { m with stack := rest }
  | some cell =>
      match pending with
      | s :: pending =>
          let round := .round i value (called ++ [s]) pending
          if s.id ∈ cell.removed then { m with stack := round :: rest }
          else { m with stack := .act (s.callback value) :: round :: rest }
      | [] =>
          let ended := cell.endRound called
          if ended.dirty then m.beginRound i ended rest
          else
            { m with
              cells := m.cells.put i (some { ended with notifying := false })
              stack := rest }

def stepEnrol (m : Machine ι V σ) (i : ι) (callback : V i → Action ι V σ)
    (next : Option Nat → Action ι V σ) (rest : List (Frame ι V σ)) : Machine ι V σ :=
  match m.cells i with
  | none => { m with stack := .act (next none) :: rest }
  | some cell =>
      { m with
        cells := m.cells.put i (some (cell.observe callback))
        stack := .act (next (some cell.nextId)) :: rest }

def step (m : Machine ι V σ) : Machine ι V σ :=
  match m.stack with
  | [] => m
  | .act action :: rest => m.stepAction action rest
  | .round i value called pending :: rest => m.stepRound i value called pending rest
  | .enrol i callback next :: rest => m.stepEnrol i callback next rest

/-! ## Runs -/

def run : Nat → Machine ι V σ → Machine ι V σ
  | 0, m => m
  | n + 1, m => if m.stack.isEmpty then m else run n m.step

end Machine
end Network

/-! ## Networks at rest -/

/-- A network between two operations: nothing is running. -/
structure Network (ι : Type) (V : ι → Type) (σ : Type) where
  cells : Network.Cells ι V σ
  memory : σ

namespace Network

variable {ι : Type} [DecidableEq ι] {V : ι → Type} {σ : Type}

def start (net : Network ι V σ) (action : Action ι V σ) : Machine ι V σ :=
  ⟨net.cells, net.memory, [.act action]⟩

/-- The network after an action, if that ends within `limit` steps. -/
def perform? (limit : Nat) (net : Network ι V σ) (action : Action ι V σ) :
    Option (Network ι V σ) :=
  let m := (net.start action).run limit
  if m.stack.isEmpty then some ⟨m.cells, m.memory⟩ else none

def value? (net : Network ι V σ) (i : ι) : Option (V i) :=
  (net.cells i).map (·.value)

/-- The network without cell `i`. -/
def drop (net : Network ι V σ) (i : ι) : Network ι V σ :=
  { net with cells := net.cells.put i none }

end Network
end FormSnippet
