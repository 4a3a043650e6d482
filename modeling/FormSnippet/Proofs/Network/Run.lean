import FormSnippet.Proofs.Network.Phase

/-!
# Run — the phases that a machine goes through

`Move` lists what one step of a machine can be, together with the events it tells; it is the only
place where the step function is opened.  `Machine.InPhase` reads the phase of a cell off a machine
between two steps.  Every step takes each cell through the turns that its events tell
(`Move.turns`), so that a whole run of a program is, for each cell, a sequence of turns that starts
before the cell exists (`Run.turns`).

A `Run` is what a program may do with a network from the outset: it makes cells and links, runs
actions one after the other, step by step, and drops cells while nothing is running.
-/

namespace FormSnippet
namespace Network

variable {ι : Type} [DecidableEq ι] {V : ι → Type} {σ : Type}

/-! ## The steps of a machine -/

/-- One step of a machine with its events. -/
inductive Move : Machine ι V σ → Trace ι V → Machine ι V σ → Prop
  | idle {cells : Cells ι V σ} {memory : σ} :
      Move ⟨cells, memory, []⟩ [] ⟨cells, memory, []⟩
  | done {cells : Cells ι V σ} {memory : σ} {rest : List (Frame ι V σ)} :
      Move ⟨cells, memory, .act .done :: rest⟩ [] ⟨cells, memory, rest⟩
  | get {cells : Cells ι V σ} {memory : σ} {rest : List (Frame ι V σ)} {i : ι}
      {next : Option (V i) → Action ι V σ} :
      Move ⟨cells, memory, .act (.get i next) :: rest⟩ []
        ⟨cells, memory, .act (next ((cells i).map (·.value))) :: rest⟩
  | remember {cells : Cells ι V σ} {memory : σ} {rest : List (Frame ι V σ)}
      {next : σ → Action ι V σ} :
      Move ⟨cells, memory, .act (.recall next) :: rest⟩ []
        ⟨cells, memory, .act (next memory) :: rest⟩
  | note {cells : Cells ι V σ} {memory : σ} {rest : List (Frame ι V σ)} {change : σ → σ}
      {next : Action ι V σ} :
      Move ⟨cells, memory, .act (.note change next) :: rest⟩ []
        ⟨cells, change memory, .act next :: rest⟩
  /-- Nothing can be stored in a cell that is gone. -/
  | storeNowhere {cells : Cells ι V σ} {memory : σ} {rest : List (Frame ι V σ)} {i : ι}
      {value : V i} {next : Bool → Action ι V σ} (gone : cells i = none) :
      Move ⟨cells, memory, .act (.set i value next) :: rest⟩ []
        ⟨cells, memory, .act (next false) :: rest⟩
  /-- A value stored during a round waits for the next one. -/
  | storeLater {cells : Cells ι V σ} {memory : σ} {rest : List (Frame ι V σ)} {i : ι}
      {value : V i} {next : Bool → Action ι V σ} {cell : Cell ι V σ i}
      (here : cells i = some cell) (busy : cell.notifying = true) :
      Move ⟨cells, memory, .act (.set i value next) :: rest⟩ [⟨i, .stored value⟩]
        ⟨cells.put i (some { cell with value, dirty := true }), memory, .act (next true) :: rest⟩
  | store {cells : Cells ι V σ} {memory : σ} {rest : List (Frame ι V σ)} {i : ι}
      {value : V i} {next : Bool → Action ι V σ} {cell : Cell ι V σ i}
      (here : cells i = some cell) (free : cell.notifying = false) :
      Move ⟨cells, memory, .act (.set i value next) :: rest⟩
        [⟨i, .stored value⟩, ⟨i, .began value⟩]
        ⟨cells.put i (some { cell with value }.beginRound), memory,
          .round i value [] cell.subscribers :: .act (next true) :: rest⟩
  | subscribeNowhere {cells : Cells ι V σ} {memory : σ} {rest : List (Frame ι V σ)} {i : ι}
      {callback : V i → Action ι V σ} {next : Option Nat → Action ι V σ}
      (gone : cells i = none) :
      Move ⟨cells, memory, .act (.subscribe i callback next) :: rest⟩ []
        ⟨cells, memory, .act (next none) :: rest⟩
  /-- The first call comes before the registration. -/
  | subscribe {cells : Cells ι V σ} {memory : σ} {rest : List (Frame ι V σ)} {i : ι}
      {callback : V i → Action ι V σ} {next : Option Nat → Action ι V σ} {cell : Cell ι V σ i}
      (here : cells i = some cell) :
      Move ⟨cells, memory, .act (.subscribe i callback next) :: rest⟩ []
        ⟨cells, memory, .act (callback cell.value) :: .enrol i callback next :: rest⟩
  | withdrawNowhere {cells : Cells ι V σ} {memory : σ} {rest : List (Frame ι V σ)} {i : ι}
      {id : Nat} {next : Bool → Action ι V σ} (gone : cells i = none) :
      Move ⟨cells, memory, .act (.unsubscribe i id next) :: rest⟩ []
        ⟨cells, memory, .act (next false) :: rest⟩
  | withdraw {cells : Cells ι V σ} {memory : σ} {rest : List (Frame ι V σ)} {i : ι}
      {id : Nat} {next : Bool → Action ι V σ} {cell : Cell ι V σ i}
      (here : cells i = some cell) :
      Move ⟨cells, memory, .act (.unsubscribe i id next) :: rest⟩ [⟨i, .withdrawn id⟩]
        ⟨cells.put i (some (cell.withdraw id)), memory, .act (next true) :: rest⟩
  | enrolNowhere {cells : Cells ι V σ} {memory : σ} {rest : List (Frame ι V σ)} {i : ι}
      {callback : V i → Action ι V σ} {next : Option Nat → Action ι V σ}
      (gone : cells i = none) :
      Move ⟨cells, memory, .enrol i callback next :: rest⟩ []
        ⟨cells, memory, .act (next none) :: rest⟩
  | enrol {cells : Cells ι V σ} {memory : σ} {rest : List (Frame ι V σ)} {i : ι}
      {callback : V i → Action ι V σ} {next : Option Nat → Action ι V σ} {cell : Cell ι V σ i}
      (here : cells i = some cell) :
      Move ⟨cells, memory, .enrol i callback next :: rest⟩ [⟨i, .enrolled cell.nextId⟩]
        ⟨cells.put i (some (cell.observe callback)), memory,
          .act (next (some cell.nextId)) :: rest⟩
  | roundNowhere {cells : Cells ι V σ} {memory : σ} {rest : List (Frame ι V σ)} {i : ι}
      {value : V i} {called pending : List (Subscriber ι V σ i)} (gone : cells i = none) :
      Move ⟨cells, memory, .round i value called pending :: rest⟩ [] ⟨cells, memory, rest⟩
  | pass {cells : Cells ι V σ} {memory : σ} {rest : List (Frame ι V σ)} {i : ι}
      {value : V i} {called pending : List (Subscriber ι V σ i)} {s : Subscriber ι V σ i}
      {cell : Cell ι V σ i} (here : cells i = some cell) (absent : s.id ∈ cell.removed) :
      Move ⟨cells, memory, .round i value called (s :: pending) :: rest⟩ [⟨i, .passed s.id⟩]
        ⟨cells, memory, .round i value (called ++ [s]) pending :: rest⟩
  | call {cells : Cells ι V σ} {memory : σ} {rest : List (Frame ι V σ)} {i : ι}
      {value : V i} {called pending : List (Subscriber ι V σ i)} {s : Subscriber ι V σ i}
      {cell : Cell ι V σ i} (here : cells i = some cell) (present : s.id ∉ cell.removed) :
      Move ⟨cells, memory, .round i value called (s :: pending) :: rest⟩
        [⟨i, .called s.id value⟩]
        ⟨cells, memory, .act (s.callback value) :: .round i value (called ++ [s]) pending :: rest⟩
  | again {cells : Cells ι V σ} {memory : σ} {rest : List (Frame ι V σ)} {i : ι}
      {value : V i} (called : List (Subscriber ι V σ i)) {cell : Cell ι V σ i}
      (here : cells i = some cell) (dirty : cell.dirty = true) :
      Move ⟨cells, memory, .round i value called [] :: rest⟩
        [⟨i, .ended⟩, ⟨i, .began cell.value⟩]
        ⟨cells.put i (some (cell.endRound called).beginRound), memory,
          .round i cell.value [] (cell.endRound called).subscribers :: rest⟩
  | finish {cells : Cells ι V σ} {memory : σ} {rest : List (Frame ι V σ)} {i : ι}
      {value : V i} (called : List (Subscriber ι V σ i)) {cell : Cell ι V σ i}
      (here : cells i = some cell) (clean : cell.dirty = false) :
      Move ⟨cells, memory, .round i value called [] :: rest⟩ [⟨i, .ended⟩]
        ⟨cells.put i (some { cell.endRound called with notifying := false }), memory, rest⟩

namespace Machine

theorem move_action (cells : Cells ι V σ) (memory : σ) (action : Action ι V σ)
    (rest : List (Frame ι V σ)) :
    let m : Machine ι V σ := ⟨cells, memory, .act action :: rest⟩
    Move m m.events m.step := by
  cases action with
  | done => exact .done
  | get i next => exact .get
  | «recall» next => exact .remember
  | note change next => exact .note
  | set i value next =>
      cases here : cells i with
      | none =>
          simpa [events, storeEvents, step, stepAction, store, here] using Move.storeNowhere here
      | some cell =>
          cases busy : cell.notifying with
          | true =>
              simpa [events, storeEvents, step, stepAction, store, here, busy] using
                Move.storeLater here busy
          | false =>
              simpa [events, storeEvents, step, stepAction, store, beginRound, here, busy] using
                Move.store here busy
  | subscribe i callback next =>
      cases here : cells i with
      | none => simpa [events, step, stepAction, here] using Move.subscribeNowhere here
      | some cell => simpa [events, step, stepAction, here] using Move.subscribe here
  | unsubscribe i id next =>
      cases here : cells i with
      | none => simpa [events, step, stepAction, here] using Move.withdrawNowhere here
      | some cell => simpa [events, step, stepAction, here] using Move.withdraw here

theorem move_round (cells : Cells ι V σ) (memory : σ) (i : ι) (value : V i)
    (called pending : List (Subscriber ι V σ i)) (rest : List (Frame ι V σ)) :
    let m : Machine ι V σ := ⟨cells, memory, .round i value called pending :: rest⟩
    Move m m.events m.step := by
  cases here : cells i with
  | none => simpa [events, roundEvents, step, stepRound, here] using Move.roundNowhere here
  | some cell =>
      cases pending with
      | nil =>
          cases dirty : cell.dirty with
          | true =>
              simpa [events, roundEvents, step, stepRound, beginRound, here, dirty,
                Cell.endRound] using Move.again called here dirty
          | false =>
              simpa [events, roundEvents, step, stepRound, here, dirty,
                Cell.endRound] using Move.finish called here dirty
      | cons s pending =>
          by_cases absent : s.id ∈ cell.removed
          · simpa [events, roundEvents, step, stepRound, here, absent] using
              Move.pass here absent
          · simpa [events, roundEvents, step, stepRound, here, absent] using
              Move.call here absent

/-- Every step of a machine is a move with the events that the machine announces. -/
theorem move (m : Machine ι V σ) : Move m m.events m.step := by
  rcases m with ⟨cells, memory, stack⟩
  cases stack with
  | nil => exact .idle
  | cons top rest =>
      cases top with
      | act action => exact move_action cells memory action rest
      | round i value called pending => exact move_round cells memory i value called pending rest
      | enrol i callback next =>
          cases here : cells i with
          | none => simpa [events, step, stepEnrol, here] using Move.enrolNowhere here
          | some cell => simpa [events, step, stepEnrol, here] using Move.enrol here

end Machine

/-! ## The rounds on a stack -/

def Frame.round? (i : ι) : Frame ι V σ → Option (Round ι V σ i)
  | .round j value called pending =>
      if h : j = i then some (h ▸ ⟨value, called, pending⟩) else none
  | _ => none

/-- The rounds of a cell that are under way. -/
def openRounds (i : ι) (stack : List (Frame ι V σ)) : List (Round ι V σ i) :=
  stack.filterMap (Frame.round? i)

section OpenRounds

variable {i j : ι} {rest : List (Frame ι V σ)}

@[simp] theorem openRounds_nil : openRounds i ([] : List (Frame ι V σ)) = [] := rfl

@[simp] theorem openRounds_act (action : Action ι V σ) :
    openRounds i (.act action :: rest) = openRounds i rest := rfl

@[simp] theorem openRounds_enrol (callback : V j → Action ι V σ)
    (next : Option Nat → Action ι V σ) :
    openRounds i (.enrol j callback next :: rest) = openRounds i rest := rfl

@[simp] theorem openRounds_same (value : V i) (called pending : List (Subscriber ι V σ i)) :
    openRounds i (.round i value called pending :: rest) =
      ⟨value, called, pending⟩ :: openRounds i rest := by
  simp [openRounds, Frame.round?]

theorem openRounds_other (h : j ≠ i) (value : V j) (called pending : List (Subscriber ι V σ j)) :
    openRounds i (.round j value called pending :: rest) = openRounds i rest := by
  simp [openRounds, Frame.round?, h]

end OpenRounds

/-! ## Phases of a machine -/

namespace Machine

/-- The machine is between two steps, and the cell is in the phase. -/
def InPhase (m : Machine ι V σ) (i : ι) : Phase ι V σ i → Prop
  | .unborn | .gone _ => m.cells i = none ∧ openRounds i m.stack = []
  | .resting value subs n =>
      m.cells i = some ⟨value, subs, n, false, false, []⟩ ∧ openRounds i m.stack = []
  | .due _ _ _ => False
  | .delivering r value new n dirty removed =>
      m.cells i = some ⟨value, new, n, true, dirty, removed⟩ ∧ openRounds i m.stack = [r]

variable {m m' : Machine ι V σ} {i : ι} {p : Phase ι V σ i}

theorem InPhase.congr (h : m.InPhase i p) (cell : m'.cells i = m.cells i)
    (stack : openRounds i m'.stack = openRounds i m.stack) : m'.InPhase i p := by
  cases p <;> simp_all [InPhase]

theorem InPhase.value (h : m.InPhase i p) : (m.cells i).map (·.value) = p.value? := by
  cases p <;> simp_all [InPhase, Phase.value?]

/-- When nothing runs, a cell that is there rests. -/
theorem InPhase.rests (h : m.InPhase i p) (idle : m.stack = []) {cell : Cell ι V σ i}
    (here : m.cells i = some cell) : p = .resting cell.value cell.subscribers cell.nextId := by
  cases p with
  | resting value subs n =>
      rcases Option.some.inj (here.symm.trans h.1) with rfl
      rfl
  | delivering r =>
      have running : openRounds i m.stack = [r] := h.2
      simp [idle] at running
  | due => cases h
  | _ => simp [show m.cells i = none from h.1] at here

theorem InPhase.not_dropped {q : Phase ι V σ i} {es : List (Event (V i))} (h : m.InPhase i q)
    (turns : Turns p es q) (here : (m.cells i).isSome) : .dropped ∉ es := by
  intro dropped
  rcases turns.gone_of_dropped dropped with ⟨n, rfl⟩
  simp [show m.cells i = none from h.1] at here

end Machine

/-! ## The turns of a step -/

/-! A phase depends on the cell and on its open rounds only.  So each of the following lemmas says
what the phase is afterwards in any machine where these have changed in the way of one step. -/

section Phases

open Machine

variable {m : Machine ι V σ} {i : ι} {p : Phase ι V σ i} {cell : Cell ι V σ i}
  {value x : V i} {called pending : List (Subscriber ι V σ i)} {s : Subscriber ι V σ i}

/-- A value is stored while a round is under way. -/
theorem Machine.InPhase.stored (h : m.InPhase i p) (here : m.cells i = some cell)
    (busy : cell.notifying = true) :
    ∃ q, Turn p (.stored value) q ∧ ∀ m' : Machine ι V σ,
      m'.cells i = some { cell with value, dirty := true } →
        openRounds i m'.stack = openRounds i m.stack → m'.InPhase i q := by
  cases p with
  | delivering r old new n dirty removed =>
      have turn := Turn.storeLater r old value new n dirty removed
      refine ⟨_, turn, fun m' now stack => ?_⟩
      simp_all [InPhase]
  | _ => simp_all [InPhase]

/-- A value is stored while the cell rests, and a round begins. -/
theorem Machine.InPhase.began (h : m.InPhase i p) (here : m.cells i = some cell)
    (free : cell.notifying = false) :
    ∃ q, Turns p [.stored value, .began value] q ∧ ∀ m' : Machine ι V σ,
      m'.cells i = some { cell with value }.beginRound →
        openRounds i m'.stack = ⟨value, [], cell.subscribers⟩ :: openRounds i m.stack →
          m'.InPhase i q := by
  cases p with
  | resting old subs n =>
      have turns := Turns.two (.store old value subs n) (.begin value subs n)
      refine ⟨_, turns, fun m' now stack => ?_⟩
      simp_all [InPhase, Cell.beginRound]
  | _ => simp_all [InPhase]

theorem Machine.InPhase.withdrawn (id : Nat) (h : m.InPhase i p)
    (here : m.cells i = some cell) :
    ∃ q, Turn p (.withdrawn id) q ∧ ∀ m' : Machine ι V σ,
      m'.cells i = some (cell.withdraw id) →
        openRounds i m'.stack = openRounds i m.stack → m'.InPhase i q := by
  cases p with
  | resting value subs n =>
      have turn := Turn.withdraw value subs n id
      refine ⟨_, turn, fun m' now stack => ?_⟩
      simp_all [InPhase, Cell.withdraw]
  | delivering r value new n dirty removed =>
      have turn := Turn.withdrawLater r value new n dirty removed id
      refine ⟨_, turn, fun m' now stack => ?_⟩
      simp_all [InPhase, Cell.withdraw]
  | _ => simp_all [InPhase]

theorem Machine.InPhase.enrolled (callback : V i → Action ι V σ) (h : m.InPhase i p)
    (here : m.cells i = some cell) :
    ∃ q, Turn p (.enrolled cell.nextId) q ∧ ∀ m' : Machine ι V σ,
      m'.cells i = some (cell.observe callback) →
        openRounds i m'.stack = openRounds i m.stack → m'.InPhase i q := by
  cases p with
  | resting value subs n =>
      obtain rfl : cell = ⟨value, subs, n, false, false, []⟩ :=
        Option.some.inj (here.symm.trans h.1)
      have turn := Turn.enrol value subs n callback
      refine ⟨_, turn, fun m' now stack => ?_⟩
      simp_all [InPhase, Cell.observe]
  | delivering r value new n dirty removed =>
      obtain rfl : cell = ⟨value, new, n, true, dirty, removed⟩ :=
        Option.some.inj (here.symm.trans h.1)
      have turn := Turn.enrolLater r value new n dirty removed callback
      refine ⟨_, turn, fun m' now stack => ?_⟩
      simp_all [InPhase, Cell.observe]
  | _ => simp_all [InPhase]

/-- The round on top is the one that is under way, and there is none below. -/
theorem Machine.InPhase.delivering (h : m.InPhase i p) (here : m.cells i = some cell)
    {rest : List (Frame ι V σ)} (top : m.stack = .round i x called pending :: rest) :
    p = .delivering ⟨x, called, pending⟩ cell.value cell.subscribers cell.nextId cell.dirty
      cell.removed ∧ cell.notifying = true ∧ openRounds i rest = [] := by
  cases p with
  | delivering r now new n dirty removed =>
      rcases h with ⟨cell', round⟩
      have same : cell = ⟨now, new, n, true, dirty, removed⟩ :=
        Option.some.inj (here.symm.trans cell')
      subst same
      simp_all
  | _ => simp_all [InPhase]

end Phases

namespace Move

open Machine

variable {m m' : Machine ι V σ} {es : Trace ι V} {i : ι} {p : Phase ι V σ i}

theorem turns_other {j : ι} {cell : Option (Cell ι V σ j)} {cells : Cells ι V σ}
    {memory memory' : σ} {stack stack' : List (Frame ι V σ)} {es : Trace ι V} (other : j ≠ i)
    (h : InPhase ⟨cells, memory, stack⟩ i p) (quiet : es.of i = [])
    (same : openRounds i stack' = openRounds i stack) :
    ∃ q, Turns p (es.of i) q ∧ InPhase ⟨cells.put j cell, memory', stack'⟩ i q := by
  refine ⟨p, by rw [quiet]; exact .refl p, h.congr ?_ same⟩
  exact Cells.put_other cells cell (Ne.symm other)

/-- Each cell goes through the turns that the events of a step tell. -/
theorem turns (move : Move m es m') (h : m.InPhase i p) :
    ∃ q, Turns p (es.of i) q ∧ m'.InPhase i q := by
  -- A step is about one cell `j` at most; the others stay in their phases.
  cases move with
  | idle | done | get | remember | note | storeNowhere | subscribeNowhere | subscribe
  | withdrawNowhere | enrolNowhere =>
      exact ⟨p, .refl p, h.congr rfl (by simp)⟩
  | @storeLater cells memory rest j value next cell here busy =>
      by_cases same : j = i
      · subst same
        rcases h.stored here busy with ⟨q, turn, after⟩
        exact ⟨q, by simpa using Turns.one turn, after _ (Cells.put_same _ _ _) rfl⟩
      · exact turns_other same h (Trace.of_cons_other same _ _) (by simp)
  | @store cells memory rest j value next cell here free =>
      by_cases same : j = i
      · subst same
        rcases h.began here free with ⟨q, turns, after⟩
        exact ⟨q, by simpa using turns, after _ (Cells.put_same _ _ _) (openRounds_same _ _ _)⟩
      · exact turns_other same h (by simp [Trace.of_cons_other same]) (openRounds_other same _ _ _)
  | @withdraw cells memory rest j id next cell here =>
      by_cases same : j = i
      · subst same
        rcases h.withdrawn id here with ⟨q, turn, after⟩
        exact ⟨q, by simpa using Turns.one turn, after _ (Cells.put_same _ _ _) rfl⟩
      · exact turns_other same h (Trace.of_cons_other same _ _) (by simp)
  | @enrol cells memory rest j callback next cell here =>
      by_cases same : j = i
      · subst same
        rcases h.enrolled callback here with ⟨q, turn, after⟩
        exact ⟨q, by simpa using Turns.one turn, after _ (Cells.put_same _ _ _) rfl⟩
      · exact turns_other same h (Trace.of_cons_other same _ _) (by simp)
  | @roundNowhere cells memory rest j value called pending gone =>
      by_cases same : j = i
      · subst same
        -- A round whose cell is gone would be open in no phase.
        cases p <;> simp_all [InPhase]
      · exact ⟨p, .refl p, h.congr rfl (openRounds_other same _ _ _).symm⟩
  | @pass cells memory rest j value called pending s cell here absent =>
      by_cases same : j = i
      · subst same
        rcases h.delivering here rfl with ⟨rfl, busy, below⟩
        refine ⟨_, by simpa using Turns.one (.pass absent), ?_⟩
        exact ⟨by simp [here, ← busy], by simp [below]⟩
      · refine ⟨p, by simpa [Trace.of_cons_other same] using Turns.refl p, h.congr rfl ?_⟩
        simp [openRounds_other same]
  | @call cells memory rest j value called pending s cell here present =>
      by_cases same : j = i
      · subst same
        rcases h.delivering here rfl with ⟨rfl, busy, below⟩
        refine ⟨_, by simpa using Turns.one (.call present), ?_⟩
        exact ⟨by simp [here, ← busy], by simp [below]⟩
      · refine ⟨p, by simpa [Trace.of_cons_other same] using Turns.refl p, h.congr rfl ?_⟩
        simp [openRounds_other same]
  | @again cells memory rest j value called cell here dirty =>
      by_cases same : j = i
      · subst same
        rcases h.delivering here rfl with ⟨rfl, busy, below⟩
        rw [dirty]
        have ended := Turn.again value cell.value called cell.subscribers cell.nextId cell.removed
        have turns := Turns.two ended (.begin _ _ _)
        refine ⟨_, by simpa using turns, ?_⟩
        simp [InPhase, Cell.beginRound, Cell.endRound, below]
      · exact turns_other same h (by simp [Trace.of_cons_other same])
          (by simp [openRounds_other same])
  | @finish cells memory rest j value called cell here clean =>
      by_cases same : j = i
      · subst same
        rcases h.delivering here rfl with ⟨rfl, busy, below⟩
        rw [clean]
        have ended := Turn.finish value cell.value called cell.subscribers cell.nextId cell.removed
        refine ⟨_, by simpa using Turns.one ended, ?_⟩
        simp [InPhase, Cell.endRound, below, clean]
      · exact turns_other same h (Trace.of_cons_other same _ _) (by simp [openRounds_other same])

theorem isSome_put {cells : Cells ι V σ} {j : ι} {cell : Cell ι V σ j} (here : cells j = some cell)
    (cell' : Cell ι V σ j) (i : ι) : (cells.put j (some cell') i).isSome = (cells i).isSome := by
  by_cases same : i = j
  · subst same
    simp [here]
  · rw [Cells.put_other _ _ same]

/-- No step makes a cell or drops one. -/
theorem isSome_eq (move : Move m es m') (i : ι) : (m'.cells i).isSome = (m.cells i).isSome := by
  cases move with
  | storeLater here | store here | withdraw here | enrol here | again _ here | finish _ here =>
      exact isSome_put here _ i
  | _ => rfl

theorem gone (move : Move m es m') (gone : m.cells i = none) : m'.cells i = none := by
  have same := move.isSome_eq i
  rw [gone] at same
  exact Option.isNone_iff_eq_none.1 (by simpa using same)

end Move

/-! ## What the events of a step say about it -/

namespace Move

variable {m m' : Machine ι V σ} {es : Trace ι V} {i : ι}

theorem value_put {cells : Cells ι V σ} {j : ι} {cell cell' : Cell ι V σ j}
    (here : cells j = some cell) (same : cell'.value = cell.value) (i : ι) :
    (cells.put j (some cell') i).map (·.value) = (cells i).map (·.value) := by
  by_cases eq : i = j
  · subst eq
    simp [here, same]
  · rw [Cells.put_other _ _ eq]

/-- The value of a cell changes only where one is stored. -/
theorem value_eq (move : Move m es m') (quiet : ∀ value, .stored value ∉ es.of i) :
    (m'.cells i).map (·.value) = (m.cells i).map (·.value) := by
  cases move with
  | @storeLater _ _ _ j value | @store _ _ _ j value =>
      have other : i ≠ j := by
        rintro rfl
        exact quiet value (by simp)
      exact congrArg (Option.map (·.value)) (Cells.put_other _ _ other)
  | withdraw here | enrol here | again _ here | finish _ here =>
      refine value_put here ?_ i
      rfl
  | _ => rfl

theorem store_of_stored (move : Move m es m') {value : V i} (stored : .stored value ∈ es.of i) :
    ∃ next rest, m.stack = .act (.set i value next) :: rest := by
  rw [Trace.mem_of] at stored
  cases move with
  | storeLater =>
      cases List.mem_singleton.1 stored
      exact ⟨_, _, rfl⟩
  | store =>
      rcases List.mem_cons.1 stored with first | second
      · cases first
        exact ⟨_, _, rfl⟩
      · cases List.mem_singleton.1 second
  | withdraw | enrol | pass | call | finish => cases List.mem_singleton.1 stored
  | again =>
      rcases List.mem_cons.1 stored with first | second
      · cases first
      · cases List.mem_singleton.1 second
  | _ => cases stored

theorem call_of_called (move : Move m es m') {id : Nat} {value : V i}
    (called : .called id value ∈ es.of i) :
    ∃ s before after rest cell, s.id = id ∧ m.cells i = some cell ∧
      m.stack = .round i value before (s :: after) :: rest ∧ m'.cells = m.cells ∧
      (∃ below, m'.stack = .act (s.callback value) :: below) ∧ es.of i = [.called id value] := by
  rw [Trace.mem_of] at called
  cases move with
  | call here =>
      cases List.mem_singleton.1 called
      exact ⟨_, _, _, _, _, rfl, here, rfl, rfl, ⟨_, rfl⟩, by simp⟩
  | storeLater | withdraw | enrol | pass | finish => cases List.mem_singleton.1 called
  | store | again =>
      rcases List.mem_cons.1 called with first | second
      · cases first
      · cases List.mem_singleton.1 second
  | _ => cases called

theorem not_dropped (move : Move m es m') : .dropped ∉ es.of i := by
  intro dropped
  rw [Trace.mem_of] at dropped
  cases move with
  | storeLater | withdraw | enrol | pass | call | finish => cases List.mem_singleton.1 dropped
  | store | again =>
      rcases List.mem_cons.1 dropped with first | second
      · cases first
      · cases List.mem_singleton.1 second
  | _ => cases dropped

end Move

/-! ## Many steps -/

namespace Machine

/-- A machine that is idle stays as it is. -/
theorem step_idle {m : Machine ι V σ} (idle : m.stack = []) : m.step = m ∧ m.events = [] := by
  simp [step, events, idle]

theorem trace_idle {m : Machine ι V σ} (idle : m.stack = []) (n : Nat) : m.trace n = [] := by
  induction n with
  | zero => rfl
  | succ n ih =>
      rcases step_idle idle with ⟨stay, silent⟩
      rw [trace, silent, stay, ih, List.append_nil]

theorem run_succ {m : Machine ι V σ} (busy : m.stack ≠ []) (n : Nat) :
    m.run (n + 1) = m.step.run n := by
  rw [run, if_neg (by simpa using busy)]

/-- Once a machine is idle, further steps change nothing. -/
theorem run_add {m : Machine ι V σ} {n : Nat} (idle : (m.run n).stack = []) (k : Nat) :
    m.run (n + k) = m.run n ∧ m.trace (n + k) = m.trace n := by
  induction n generalizing m with
  | zero =>
      have empty : m.stack = [] := idle
      rw [Nat.zero_add, trace_idle empty]
      cases k <;> simp [run, trace, empty]
  | succ n ih =>
      rw [Nat.add_right_comm]
      by_cases empty : m.stack = []
      · rw [trace_idle empty, trace_idle empty]
        simp [run, empty]
      · rw [run_succ empty] at idle
        rcases ih idle with ⟨ends, events⟩
        rw [run_succ empty, run_succ empty, ends, trace, trace, events]
        exact ⟨rfl, rfl⟩

theorem isSome_run (m : Machine ι V σ) (n : Nat) (i : ι) :
    ((m.run n).cells i).isSome = (m.cells i).isSome := by
  induction n generalizing m with
  | zero => rfl
  | succ n ih =>
      unfold run
      split
      · rfl
      · rw [ih m.step, m.move.isSome_eq i]

end Machine

/-! ## Programs -/

/-- The machine that has nothing to do on the network. -/
def idle (net : Network ι V σ) : Machine ι V σ :=
  ⟨net.cells, net.memory, []⟩

omit [DecidableEq ι] in
theorem idle_injective {net net' : Network ι V σ} (same : net.idle = net'.idle) : net = net' := by
  cases net
  cases net'
  cases same
  rfl

/-- Adds a cell. -/
def create (net : Network ι V σ) (i : ι) (value : V i) : Network ι V σ :=
  { net with cells := net.cells.put i (some (.new value)) }

/-- The event of `observe`. -/
def observeEvents (net : Network ι V σ) (i : ι) : Trace ι V :=
  match net.cells i with
  | none => []
  | some cell => [⟨i, .linked cell.nextId⟩]

/-- The events of `derive`. -/
def deriveEvents (net : Network ι V σ) (link : Link ι V σ) (value : V link.target) : Trace ι V :=
  let net := net.create link.target value
  ⟨link.target, .created value⟩ ::
    (net.observeEvents link.left ++ (net.observe link.left link.onLeft).observeEvents link.right)

/-- What a program has done with a network so far: the events, the links that it made, and the
machine as it stands.  The program only performs actions that are `allowed`. -/
inductive Run (allowed : Action ι V σ → Prop) :
    Trace ι V → List (Link ι V σ) → Machine ι V σ → Prop
  | empty (memory : σ) : Run allowed [] [] (idle ⟨fun _ => none, memory⟩)
  | create {tr : Trace ι V} {links : List (Link ι V σ)} {net : Network ι V σ} {i : ι}
      (run : Run allowed tr links net.idle) (fresh : tr.of i = []) (value : V i) :
      Run allowed (tr ++ [⟨i, .created value⟩]) links (net.create i value).idle
  | derive {tr : Trace ι V} {links : List (Link ι V σ)} {net : Network ι V σ} {link : Link ι V σ}
      {x : V link.left} {y : V link.right} (run : Run allowed tr links net.idle)
      (fresh : tr.of link.target = []) (left : net.value? link.left = some x)
      (right : net.value? link.right = some y) :
      Run allowed (tr ++ net.deriveEvents link (link.compute x y)) (link :: links)
        (net.derive link).idle
  | drop {tr : Trace ι V} {links : List (Link ι V σ)} {net : Network ι V σ} {i : ι}
      {cell : Cell ι V σ i} (run : Run allowed tr links net.idle) (here : net.cells i = some cell) :
      Run allowed (tr ++ [⟨i, .dropped⟩]) links (net.drop i).idle
  | start {tr : Trace ι V} {links : List (Link ι V σ)} {net : Network ι V σ}
      {action : Action ι V σ} (run : Run allowed tr links net.idle) (ok : allowed action) :
      Run allowed tr links (net.start action)
  | step {tr : Trace ι V} {links : List (Link ι V σ)} {m : Machine ι V σ}
      (run : Run allowed tr links m) : Run allowed (tr ++ m.events) links m.step

/-! ## The turns of a run -/

theorem Machine.turns_run {m : Machine ι V σ} {i : ι} {p : Phase ι V σ i} (h : m.InPhase i p)
    (n : Nat) : ∃ q, Turns p ((m.trace n).of i) q ∧ (m.run n).InPhase i q := by
  induction n generalizing m p with
  | zero =>
      exact ⟨p, .refl p, h⟩
  | succ n ih =>
      by_cases idle : m.stack = []
      · refine ⟨p, ?_, by simpa [run, idle] using h⟩
        rw [trace_idle idle]
        exact .refl p
      · rcases m.move.turns h with ⟨q, first, now⟩
        rcases ih now with ⟨r, later, last⟩
        refine ⟨r, ?_, by simpa [run, idle] using last⟩
        rw [trace, Trace.of_append]
        exact first.trans later

section Networks

variable {net : Network ι V σ} {i j : ι} {p : Phase ι V σ i}

theorem create_turns (value : V j) (h : net.idle.InPhase i p)
    (unborn : i = j → p = .unborn) :
    ∃ q, Turns p (Trace.of [⟨j, .created value⟩] i) q ∧ (net.create j value).idle.InPhase i q := by
  by_cases same : j = i
  · subst same
    rcases unborn rfl with rfl
    exact ⟨_, by simpa using Turns.one (.create value), by
      simp [Machine.InPhase, idle, create, Cell.new]⟩
  · refine ⟨p, by simpa [Trace.of_cons_other same] using Turns.refl p, h.congr ?_ rfl⟩
    exact Cells.put_other _ _ (Ne.symm same)

theorem observe_turns (callback : V j → Action ι V σ)
    (h : net.idle.InPhase i p) :
    ∃ q, Turns p ((net.observeEvents j).of i) q ∧ (net.observe j callback).idle.InPhase i q := by
  -- Nothing runs, so a cell that is there rests.
  by_cases same : j = i
  · subst same
    cases p with
    | resting value subs n =>
        have here : net.cells j = some ⟨value, subs, n, false, false, []⟩ := h.1
        refine ⟨.resting value (subs ++ [⟨n, callback⟩]) (n + 1), ?_, ?_⟩
        · simpa [observeEvents, here] using Turns.one (.link value subs n callback)
        · simp [Machine.InPhase, idle, observe, Cell.observe, here]
    | unborn =>
        have here : net.cells j = none := h.1
        refine ⟨.unborn, by simpa [observeEvents, here] using Turns.refl _, ?_⟩
        simp [Machine.InPhase, idle, observe, here]
    | gone n =>
        have here : net.cells j = none := h.1
        refine ⟨.gone n, by simpa [observeEvents, here] using Turns.refl _, ?_⟩
        simp [Machine.InPhase, idle, observe, here]
    | due => cases h
    | delivering => cases h.2
  · have quiet : (net.observeEvents j).of i = [] := by
      unfold observeEvents
      split
      · rfl
      · simp [Trace.of_cons_other same]
    refine ⟨p, by rw [quiet]; exact .refl p, h.congr (Cells.put_other _ _ (Ne.symm same)) rfl⟩

/-- A link adds its target and registers with both sources. -/
theorem derive_eq {link : Link ι V σ} {x : V link.left} {y : V link.right}
    (left : net.value? link.left = some x) (right : net.value? link.right = some y) :
    (net.derive link).cells =
      (((net.create link.target (link.compute x y)).observe link.left link.onLeft).observe
        link.right link.onRight).cells := by
  simp [derive, left, right, create, observe]

theorem derive_turns {link : Link ι V σ} {x : V link.left}
    {y : V link.right} (left : net.value? link.left = some x)
    (right : net.value? link.right = some y) (h : net.idle.InPhase i p)
    (unborn : i = link.target → p = .unborn) :
    ∃ q, Turns p ((net.deriveEvents link (link.compute x y)).of i) q ∧
      (net.derive link).idle.InPhase i q := by
  rcases create_turns (link.compute x y) h unborn with ⟨q, created, hq⟩
  rcases observe_turns link.onLeft hq with ⟨r, first, hr⟩
  rcases observe_turns link.onRight hr with ⟨s, second, hs⟩
  refine ⟨s, ?_, hs.congr (by simp only [idle]; rw [derive_eq left right]) rfl⟩
  have whole := (created.trans first).trans second
  simpa [deriveEvents, ← Trace.of_append] using whole

theorem drop_turns {cell : Cell ι V σ j} (here : net.cells j = some cell)
    (h : net.idle.InPhase i p) :
    ∃ q, Turns p (Trace.of [⟨j, .dropped⟩] i) q ∧ (net.drop j).idle.InPhase i q := by
  by_cases same : j = i
  · subst same
    rcases h.rests rfl here with rfl
    refine ⟨.gone cell.nextId, by simpa using Turns.one (.drop _ _ _), ?_⟩
    simp [Machine.InPhase, idle, Network.drop]
  · refine ⟨p, by simpa [Trace.of_cons_other same] using Turns.refl p, h.congr ?_ rfl⟩
    exact Cells.put_other _ _ (Ne.symm same)

theorem observe_here (callback : V j → Action ι V σ) {cell : Cell ι V σ j}
    (here : net.cells j = some cell) :
    (net.observe j callback).cells j = some (cell.observe callback) ∧
      net.observeEvents j = [⟨j, .linked cell.nextId⟩] := by
  simp [observe, observeEvents, here]

/-- Nobody is lost when a callback is registered. -/
theorem observe_keeps (j : ι) (callback : V j → Action ι V σ) {cell : Cell ι V σ i}
    (here : net.cells i = some cell) : ∃ cell', (net.observe j callback).cells i = some cell' ∧
      ∀ s ∈ cell.subscribers, s ∈ cell'.subscribers := by
  by_cases same : i = j
  · subst same
    exact ⟨_, (observe_here callback here).1, fun s hs => List.mem_append_left _ hs⟩
  · exact ⟨cell, (Cells.put_other _ _ same).trans here, fun s hs => hs⟩

theorem observe_value (net : Network ι V σ) (j : ι) (callback : V j → Action ι V σ) (i : ι) :
    (net.observe j callback).value? i = net.value? i := by
  by_cases same : i = j
  · subst same
    simp [value?, observe, Function.comp_def, Cell.observe]
  · simp [value?, observe, Cells.put_other _ _ same]

theorem derive_value {link : Link ι V σ} {x : V link.left} {y : V link.right}
    (left : net.value? link.left = some x) (right : net.value? link.right = some y) (i : ι) :
    (net.derive link).value? i = (net.create link.target (link.compute x y)).value? i := by
  have whole : (net.derive link).value? i = (((net.create link.target (link.compute x y)).observe
      link.left link.onLeft).observe link.right link.onRight).value? i := by
    simp only [value?, derive_eq left right]
  rw [whole, observe_value, observe_value]

theorem create_value_other (net : Network ι V σ) (value : V j) (other : i ≠ j) :
    (net.create j value).value? i = net.value? i := by
  simp [value?, create, Cells.put_other _ _ other]

/-- An action that ends leaves an idle machine. -/
theorem run_of_perform {limit : Nat} {action : Action ι V σ} {net' : Network ι V σ}
    (ends : net.perform? limit action = some net') : (net.start action).run limit = net'.idle := by
  simp only [perform?] at ends
  split at ends
  · next empty =>
      have stack : ((net.start action).run limit).stack = [] := by simpa using empty
      cases ends
      simp [idle, ← stack]
  · cases ends

end Networks

namespace Run

variable {allowed : Action ι V σ → Prop} {tr : Trace ι V} {links : List (Link ι V σ)}
  {m : Machine ι V σ} {net net' : Network ι V σ}

theorem steps (run : Run allowed tr links m) (n : Nat) :
    Run allowed (tr ++ m.trace n) links (m.run n) := by
  induction n generalizing m tr with
  | zero =>
      simpa [Machine.trace, Machine.run] using run
  | succ n ih =>
      by_cases idle : m.stack = []
      · simpa [Machine.trace_idle idle, Machine.run, idle] using run
      · simpa [Machine.trace, Machine.run, idle] using ih run.step

theorem perform {limit : Nat} {action : Action ι V σ} (run : Run allowed tr links net.idle)
    (ok : allowed action) (ends : net.perform? limit action = some net') :
    Run allowed (tr ++ (net.start action).trace limit) links net'.idle := by
  rw [← run_of_perform ends]
  exact (run.start ok).steps limit

theorem unborn_of_fresh {i : ι} {p : Phase ι V σ i} (fresh : tr.of i = [])
    (turns : Turns .unborn (tr.of i) p) : p = .unborn := by
  rw [fresh] at turns
  cases turns with
  | refl => rfl

/-- Each cell goes through the turns that the events of a run tell. -/
theorem turns (run : Run allowed tr links m) (i : ι) :
    ∃ p, Turns .unborn (tr.of i) p ∧ m.InPhase i p := by
  -- Between two operations the stack is empty, so the cells rest, and may be dropped or linked.
  induction run with
  | empty memory =>
      exact ⟨.unborn, .refl _, rfl, rfl⟩
  | @create tr links net j run fresh value ih =>
      rcases ih with ⟨p, before, now⟩
      obtain ⟨q, turn, after⟩ := create_turns value now
        (fun same => unborn_of_fresh (same ▸ fresh) before)
      exact ⟨q, by simpa using before.trans turn, after⟩
  | @derive tr links net link x y run fresh left right ih =>
      rcases ih with ⟨p, before, now⟩
      obtain ⟨q, turns, after⟩ := derive_turns left right now
        (fun same => unborn_of_fresh (same ▸ fresh) before)
      exact ⟨q, by simpa using before.trans turns, after⟩
  | @drop tr links net j cell run here ih =>
      rcases ih with ⟨p, before, now⟩
      obtain ⟨q, turn, after⟩ := drop_turns here now
      exact ⟨q, by simpa using before.trans turn, after⟩
  | start run ok ih =>
      rcases ih with ⟨p, before, now⟩
      exact ⟨p, before, now.congr rfl rfl⟩
  | step run ih =>
      rcases ih with ⟨p, before, now⟩
      rcases (Machine.move _).turns now with ⟨q, turns, after⟩
      exact ⟨q, by simpa using before.trans turns, after⟩

/-- A cell holds what its events say. -/
theorem held_eq (run : Run allowed tr links m) (i : ι) :
    held (tr.of i) = (m.cells i).map (·.value) := by
  rcases run.turns i with ⟨p, turns, now⟩
  rw [now.value]
  exact turns.value_eq.symm

/-- Something has happened to every cell that is there. -/
theorem known (run : Run allowed tr links m) {i : ι} (here : (m.cells i).isSome) :
    tr.of i ≠ [] := by
  intro fresh
  rcases run.turns i with ⟨p, before, now⟩
  rcases unborn_of_fresh fresh before with rfl
  simp [show m.cells i = none from now.1] at here

end Run

/-! ## A crowded cell -/

/-- Asks for a second round during the first, and withdraws the subscriber whose turn is next. -/
def meddle (value : Nat) : Action Unit (fun _ => Nat) Unit :=
  if value = 1 then .set () 2 fun _ => .unsubscribe () 1 fun _ => .done else .done

def crowdCell : Cell Unit (fun _ => Nat) Unit () where
  value := 0
  subscribers := [⟨0, meddle⟩, ⟨1, fun _ => .done⟩, ⟨2, fun _ => .done⟩]
  nextId := 3
  notifying := false
  dirty := false
  removed := []

/-- One cell with three subscribers, the first of which meddles. -/
def crowd : Network Unit (fun _ => Nat) Unit :=
  ⟨fun _ => some crowdCell, ()⟩

def crowdEvents : Trace Unit (fun _ => Nat) :=
  [⟨(), .created 0⟩, ⟨(), .enrolled 0⟩, ⟨(), .enrolled 1⟩, ⟨(), .enrolled 2⟩]

/-- Registers the three. -/
def gather : Action Unit (fun _ => Nat) Unit :=
  .subscribe () meddle fun _ =>
    .subscribe () (fun _ => .done) fun _ => .subscribe () (fun _ => .done) fun _ => .done

/-- Stores the value that makes the first subscriber meddle. -/
def poke : Action Unit (fun _ => Nat) Unit :=
  .set () 1 fun _ => .done

theorem crowd_run : Run (fun _ => True) crowdEvents [] crowd.idle := by
  have created : Run (fun _ => True) [⟨(), .created 0⟩] []
      (create (V := fun _ => Nat) ⟨fun _ => none, ()⟩ () 0).idle :=
    Run.create (.empty ()) rfl 0
  have gathered : (create (V := fun _ => Nat) ⟨fun _ => none, ()⟩ () 0).perform? 20 gather =
      some crowd := rfl
  exact created.perform trivial gathered

end Network
end FormSnippet
