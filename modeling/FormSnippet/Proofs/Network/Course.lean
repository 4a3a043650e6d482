import FormSnippet.Proofs.Network.Run

/-!
# Course — a run told move by move

Where it is known what a machine will meet, its run can be written down as a sequence of moves.  A
machine has one move at a time, so the sequence is the run; and once nothing is left to do, further
steps change nothing, so any limit that is not below the number of moves gives the same end.

- `Move.eq`           : a move is the step of the machine, with its events
- `Course`            : a number of moves in a row
- `Course.perform`    : the course of an action says what performing the action comes to
- `Course.deliver`    : the course of storing a value where callbacks only note what they are told
- `Course.relay`      : the course of storing a value where the one callback has a course of its own
-/

namespace FormSnippet
namespace Network

variable {ι : Type} [DecidableEq ι] {V : ι → Type} {σ : Type}

/-! ## Moves in a row -/

/-- The machine has one move. -/
theorem Move.eq {m m' : Machine ι V σ} {es : Trace ι V} (move : Move m es m') :
    m.events = es ∧ m.step = m' := by
  cases move <;> simp_all [Machine.events, Machine.storeEvents, Machine.roundEvents, Machine.step,
    Machine.stepAction, Machine.store, Machine.stepRound, Machine.stepEnrol, Machine.beginRound,
    Cell.endRound]

/-- A number of moves, from a machine that is busy before each of them, with their events. -/
inductive Course : Nat → Machine ι V σ → Trace ι V → Machine ι V σ → Prop
  | refl (m : Machine ι V σ) : Course 0 m [] m
  | cons {n : Nat} {m m' m'' : Machine ι V σ} {es fs : Trace ι V} (busy : m.stack ≠ [])
      (first : Move m es m') (rest : Course n m' fs m'') : Course (n + 1) m (es ++ fs) m''

namespace Course

variable {n k limit : Nat} {m m' m'' : Machine ι V σ} {es fs : Trace ι V}

section Front

variable {cells : Cells ι V σ} {memory : σ} {top : Frame ι V σ} {below : List (Frame ι V σ)}
  {e : (i : ι) × Event (V i)}

/-- A move without events, in front. -/
theorem silent (first : Move ⟨cells, memory, top :: below⟩ [] m') (rest : Course n m' fs m'') :
    Course (n + 1) ⟨cells, memory, top :: below⟩ fs m'' :=
  .cons (List.cons_ne_nil _ _) first rest

/-- A move with one event, in front. -/
theorem event (first : Move ⟨cells, memory, top :: below⟩ [e] m') (rest : Course n m' fs m'') :
    Course (n + 1) ⟨cells, memory, top :: below⟩ (e :: fs) m'' :=
  .cons (List.cons_ne_nil _ _) first rest

variable {i : ι} {cell : Cell ι V σ i} (here : cells i = some cell)
include here

/-- A cell that is there is read, in front. -/
theorem get {next : Option (V i) → Action ι V σ}
    (rest : Course n ⟨cells, memory, .act (next (some cell.value)) :: below⟩ es m') :
    Course (n + 1) ⟨cells, memory, .act (.get i next) :: below⟩ es m' := by
  refine silent .get ?_
  rw [here]
  exact rest

theorem update {f : V i → V i} {next : Bool → Action ι V σ}
    (rest : Course n ⟨cells, memory, .act (.set i (f cell.value) next) :: below⟩ es m') :
    Course (n + 1) ⟨cells, memory, .act (.update i f next) :: below⟩ es m' :=
  get here rest

theorem updateIf_some {f : V i → Option (V i)} {next : Option Bool → Action ι V σ} {value : V i}
    (given : f cell.value = some value)
    (rest : Course n
      ⟨cells, memory, .act (.set i value fun _ => next (some true)) :: below⟩ es m') :
    Course (n + 1) ⟨cells, memory, .act (.updateIf i f next) :: below⟩ es m' := by
  refine get here ?_
  simp only [given]
  exact rest

theorem updateIf_none {f : V i → Option (V i)} {next : Option Bool → Action ι V σ}
    (refused : f cell.value = none)
    (rest : Course n ⟨cells, memory, .act (next (some false)) :: below⟩ es m') :
    Course (n + 1) ⟨cells, memory, .act (.updateIf i f next) :: below⟩ es m' := by
  refine get here ?_
  simp only [refused]
  exact rest

end Front

theorem trans (h : Course n m es m') (h' : Course k m' fs m'') :
    Course (n + k) m (es ++ fs) m'' := by
  induction h with
  | refl => simpa using h'
  | cons busy first _ ih =>
      have whole := Course.cons busy first (ih h')
      rwa [← List.append_assoc, Nat.add_right_comm] at whole

/-- A course is as many steps of the run. -/
theorem ends (h : Course n m es m') : m.run n = m' ∧ m.trace n = es := by
  induction h with
  | refl => exact ⟨rfl, rfl⟩
  | cons busy first _ ih =>
      rcases first.eq with ⟨told, next⟩
      rcases ih with ⟨ends, events⟩
      rw [Machine.run_succ busy, next, Machine.trace, told, next, ends, events]
      exact ⟨rfl, rfl⟩

/-- A course to an idle machine is the run, whatever the limit. -/
theorem run_eq (h : Course n m es m') (idle : m'.stack = []) (enough : n ≤ limit) :
    m.run limit = m' ∧ m.trace limit = es := by
  rcases h.ends with ⟨rfl, rfl⟩
  -- What is left of the limit changes nothing.
  have more := Machine.run_add idle (limit - n)
  rwa [Nat.add_sub_cancel' enough] at more

/-- An action whose course ends within the limit is performed. -/
theorem perform {net net' : Network ι V σ} {action : Action ι V σ}
    (h : Course n (net.start action) es net'.idle) (enough : n ≤ limit) :
    net.perform? limit action = some net' ∧ (net.start action).trace limit = es := by
  rcases h.run_eq rfl enough with ⟨ends, events⟩
  refine ⟨?_, events⟩
  rw [perform?, ends]
  rfl

end Course

/-! ## Subscribers that take notes -/

/-- A subscriber that only notes what it is told. -/
def Subscriber.noting {i : ι} (listener : Nat × (V i → σ → σ)) : Subscriber ι V σ i :=
  ⟨listener.1, fun value => .note (listener.2 value) .done⟩

omit [DecidableEq ι] in
@[simp] theorem Subscriber.noting_id {i : ι} (listener : Nat × (V i → σ → σ)) :
    (Subscriber.noting listener : Subscriber ι V σ i).id = listener.1 := rfl

/-- The events of a value that is stored in a resting cell and told to these subscribers. -/
def announcement {α : Type} (ids : List Nat) (value : α) : List (Event α) :=
  .stored value :: .began value :: (ids.map (.called · value) ++ [.ended])

theorem Trace.of_map (i : ι) (es : List (Event (V i))) :
    Trace.of (es.map (Sigma.mk i)) i = es := by
  induction es with
  | nil => rfl
  | cons e es ih => rw [List.map_cons, of_cons_same, ih]

theorem Cells.put_put (cells : Cells ι V σ) (i : ι) (cell cell' : Option (Cell ι V σ i)) :
    (cells.put i cell).put i cell' = cells.put i cell' := by
  funext j
  by_cases same : j = i
  · subst same
    rw [put_same, put_same]
  · rw [put_other _ _ same, put_other _ _ same, put_other _ _ same]

omit [DecidableEq ι] in
/-- A cell that nobody touched during its round is afterwards what it was before. -/
theorem Cell.restored {i : ι} (cell : Cell ι V σ i) (resting : cell.notifying = false)
    (clean : cell.dirty = false) (removed : cell.removed = []) :
    { cell.beginRound.endRound cell.subscribers with notifying := false } = cell := by
  cases cell
  simp_all [beginRound, endRound]

namespace Course

variable {n : Nat} {es : Trace ι V} {i : ι} {cells : Cells ι V σ} {cell : Cell ι V σ i}

/-- Each subscriber in turn takes its note. -/
theorem round (here : cells i = some cell) (removed : cell.removed = []) (value : V i)
    (listeners : List (Nat × (V i → σ → σ))) (called : List (Subscriber ι V σ i)) (memory : σ)
    (rest : List (Frame ι V σ)) :
    Course (3 * listeners.length)
      ⟨cells, memory, .round i value called (listeners.map .noting) :: rest⟩
      (listeners.map fun listener => ⟨i, .called listener.1 value⟩)
      ⟨cells, listeners.foldl (fun memory listener => listener.2 value memory) memory,
        .round i value (called ++ listeners.map .noting) [] :: rest⟩ := by
  induction listeners generalizing called memory with
  | nil =>
      simpa using Course.refl (V := V) _
  | cons listener listeners ih =>
      have present : (Subscriber.noting listener : Subscriber ι V σ i).id ∉ cell.removed := by
        simp [removed]
      -- A turn takes three moves: the call, the note and the end of the callback.
      have later := ih (called ++ [.noting listener]) (listener.2 value memory)
      have whole := Course.event (.call here present) (.silent .note (.silent .done later))
      simpa [Nat.mul_add] using whole

/-- A value that is stored in a resting cell is told to everybody once. -/
theorem deliver (here : cells i = some cell) (resting : cell.notifying = false)
    (clean : cell.dirty = false) (removed : cell.removed = [])
    {listeners : List (Nat × (V i → σ → σ))}
    (subscribers : cell.subscribers = listeners.map .noting) (value : V i)
    (next : Bool → Action ι V σ) (memory : σ) (rest : List (Frame ι V σ)) :
    Course (3 * listeners.length + 2)
      ⟨cells, memory, .act (.set i value next) :: rest⟩
      ((announcement (listeners.map (·.1)) value).map (Sigma.mk i))
      ⟨cells.put i (some { cell with value }),
        listeners.foldl (fun memory listener => listener.2 value memory) memory,
        .act (next true) :: rest⟩ := by
  -- While the round runs, the list is out of the cell and nobody is withdrawn.
  have busy : (cells.put i (some { cell with value }.beginRound)) i =
      some { cell with value }.beginRound := Cells.put_same _ _ _
  have turns := round busy removed value listeners [] memory (.act (next true) :: rest)
  have ends := turns.trans (.event (.finish (listeners.map .noting) busy rfl) (.refl _))
  rw [← subscribers, Cells.put_put,
    Cell.restored { cell with value } resting clean removed] at ends
  have whole := Course.cons (List.cons_ne_nil _ _) (.store here resting) ends
  simpa [announcement, Function.comp_def] using whole

/-- A value that is stored in a resting cell is told to its only subscriber, whose callback has a
course of its own and leaves the cell alone. -/
theorem relay (here : cells i = some cell) (resting : cell.notifying = false)
    (clean : cell.dirty = false) (removed : cell.removed = []) {s : Subscriber ι V σ i}
    (only : cell.subscribers = [s]) (value : V i) (next : Bool → Action ι V σ)
    {memory memory' : σ} {cells' : Cells ι V σ} {rest : List (Frame ι V σ)}
    (kept : cells' i = some { cell with value }.beginRound)
    (h : Course n
      ⟨cells.put i (some { cell with value }.beginRound), memory,
        .act (s.callback value) :: .round i value [s] [] :: .act (next true) :: rest⟩ es
      ⟨cells', memory', .round i value [s] [] :: .act (next true) :: rest⟩) :
    Course (n + 3)
      ⟨cells, memory, .act (.set i value next) :: rest⟩
      (⟨i, .stored value⟩ :: ⟨i, .began value⟩ :: ⟨i, .called s.id value⟩ :: (es ++ [⟨i, .ended⟩]))
      ⟨cells'.put i (some { cell with value }), memory', .act (next true) :: rest⟩ := by
  -- The round ends with the list that it began with, since nobody touched the cell.
  have same := Cell.restored { cell with value } resting clean removed
  cases cell
  subst removed only
  have ends := h.trans (.event (.finish [s] kept rfl) (.refl _))
  rw [same] at ends
  refine .cons (List.cons_ne_nil _ _) (.store here resting) ?_
  exact .event (.call (Cells.put_same _ _ _) List.not_mem_nil) ends

end Course
end Network
end FormSnippet
