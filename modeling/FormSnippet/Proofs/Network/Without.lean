import FormSnippet.Proofs.Network.Course
import FormSnippet.Proofs.Network.Rest

/-!
# Without — registrations that nobody would miss

Some registrations are left out of a network: their callbacks are taken out of the cells, and out of
the rounds that have taken them from there.  If those callbacks only read, and stop as soon as they
find that some cell is gone, then the network with them and the network without them do the same,
but for the turns of those callbacks.  Both directions are proved: a step of the smaller network is
one or more steps of the larger one.

- `Action.Vain`      : reads that lead to nothing while a cell is gone
- `Machine.without`  : the machine in which the registrations are left out
- `Machine.Inert`    : the registrations that are left out do nothing
- `Inert.advance`    : a step without them
- `Rest.forward`     : whatever is done with them is done without them
- `Rest.backward`    : whatever is done without them is done with them
-/

namespace FormSnippet
namespace Network

variable {ι : Type} {V : ι → Type} {σ : Type}

/-! ## Vain actions -/

/-- The action only reads, and is through at the latest when it finds the cell gone. -/
def Action.Vain (j : ι) : Action ι V σ → Prop
  | .done => True
  | .get i next => ∀ value, (i = j → value = none) → (next value).Vain j
  | _ => False

/-- The subscriber does nothing while the cell is gone. -/
def Subscriber.Vain {i : ι} (s : Subscriber ι V σ i) (j : ι) : Prop :=
  ∀ value, (s.callback value).Vain j

theorem Action.Vain.course [DecidableEq ι] {j : ι} {cells : Cells ι V σ} {memory : σ}
    {below : List (Frame ι V σ)} {action : Action ι V σ} (vain : action.Vain j)
    (gone : cells j = none) :
    ∃ n, Course n ⟨cells, memory, .act action :: below⟩ [] ⟨cells, memory, below⟩ := by
  induction action with
  | done => exact ⟨1, .silent .done (.refl _)⟩
  | get i next ih =>
      -- If it is cell `j` that is read, the action is handed nothing, as it expects.
      have read : i = j → (cells i).map (·.value) = none := by
        rintro rfl
        rw [gone]
        rfl
      rcases ih _ (vain _ read) with ⟨n, course⟩
      exact ⟨n + 1, .silent .get course⟩
  | _ => cases vain

/-! ## Taken numbers -/

/-- The number has been given away, and whoever has it satisfies `P`. -/
structure Phase.Taken {i : ι} (p : Phase ι V σ i) (id : Nat) (P : Subscriber ι V σ i → Prop) :
    Prop where
  below : id < p.nextId
  holder : ∀ s ∈ p.subscribers, s.id = id → P s

theorem Turns.taken {i : ι} {p q : Phase ι V σ i} {es : List (Event (V i))} {id : Nat}
    {P : Subscriber ι V σ i → Prop} (turns : Turns p es q) (h : p.Taken id P) : q.Taken id P := by
  refine ⟨Nat.lt_of_lt_of_le h.below turns.issued_increase.1, ?_⟩
  intro s hs number
  rcases turns.comes hs with old | new
  · exact h.holder s old number
  · have early := h.below
    omega

/-! ## Leaving registrations out -/

section Without

variable (out : (i : ι) → Nat → Bool)

/-- The subscribers that are not left out. -/
def remaining {i : ι} (subs : List (Subscriber ι V σ i)) : List (Subscriber ι V σ i) :=
  subs.filter (!out i ·.id)

def Cell.without {i : ι} (cell : Cell ι V σ i) : Cell ι V σ i :=
  { cell with subscribers := remaining out cell.subscribers }

def Cells.without (cells : Cells ι V σ) : Cells ι V σ :=
  fun i => (cells i).map (Cell.without out)

def Frame.without : Frame ι V σ → Frame ι V σ
  | .round i value called pending => .round i value (remaining out called) (remaining out pending)
  | frame => frame

def Machine.without (m : Machine ι V σ) : Machine ι V σ :=
  ⟨m.cells.without out, m.memory, m.stack.map (Frame.without out)⟩

/-- The network in which the registrations are left out. -/
def without (net : Network ι V σ) : Network ι V σ :=
  ⟨net.cells.without out, net.memory⟩

/-- The events without the turns of those that are left out. -/
def Trace.without (tr : Trace ι V) : Trace ι V :=
  tr.filter fun e => !e.2.turn?.any (out e.1)

end Without

section Equations

variable {out : (i : ι) → Nat → Bool} {i : ι}

@[simp] theorem remaining_nil : remaining out ([] : List (Subscriber ι V σ i)) = [] := rfl

@[simp] theorem remaining_append (subs subs' : List (Subscriber ι V σ i)) :
    remaining out (subs ++ subs') = remaining out subs ++ remaining out subs' :=
  List.filter_append ..

theorem remaining_cons_out {s : Subscriber ι V σ i} (left : out i s.id = true)
    (subs : List (Subscriber ι V σ i)) : remaining out (s :: subs) = remaining out subs := by
  simp [remaining, left]

theorem remaining_cons {s : Subscriber ι V σ i} (stays : out i s.id = false)
    (subs : List (Subscriber ι V σ i)) : remaining out (s :: subs) = s :: remaining out subs := by
  simp [remaining, stays]

theorem remaining_filter (keep : Nat → Bool) (subs : List (Subscriber ι V σ i)) :
    remaining out (subs.filter (keep ·.id)) = (remaining out subs).filter (keep ·.id) := by
  simp [remaining, List.filter_filter, Bool.and_comm]

theorem Cell.without_withdraw (cell : Cell ι V σ i) (id : Nat) :
    (cell.withdraw id).without out = (cell.without out).withdraw id := by
  simp only [withdraw, without, Cell.mk.injEq, true_and]
  exact ⟨remaining_filter (decide <| · ≠ id) _, rfl⟩

theorem Cell.without_endRound (cell : Cell ι V σ i) (called : List (Subscriber ι V σ i)) :
    (cell.endRound called).without out = (cell.without out).endRound (remaining out called) := by
  simp only [endRound, without, remaining_append, Cell.mk.injEq, true_and, and_true]
  exact congrArg (· ++ _) (remaining_filter (decide <| · ∉ cell.removed) _)

theorem Cell.without_observe {cell : Cell ι V σ i} (new : out i cell.nextId = false)
    (callback : V i → Action ι V σ) :
    (cell.observe callback).without out = (cell.without out).observe callback := by
  simp [observe, without, remaining_cons, new]

theorem Cells.without_here {cells : Cells ι V σ} {cell : Cell ι V σ i}
    (here : cells i = some cell) : cells.without out i = some (cell.without out) := by
  rw [without, here, Option.map_some]

theorem Cells.without_gone {cells : Cells ι V σ} (gone : cells i = none) :
    cells.without out i = none := by
  rw [without, gone, Option.map_none]

theorem Cells.without_value (cells : Cells ι V σ) (i : ι) :
    (cells.without out i).map (·.value) = (cells i).map (·.value) := by
  simp [without, Function.comp_def, Cell.without]

theorem Cells.without_put [DecidableEq ι] (cells : Cells ι V σ) (i : ι)
    (cell : Option (Cell ι V σ i)) :
    (cells.put i cell).without out = (cells.without out).put i (cell.map (Cell.without out)) := by
  funext k
  by_cases same : k = i
  · subst same
    rw [put_same, without, put_same]
  · rw [put_other _ _ same, without, put_other _ _ same, without]

theorem Machine.without_put [DecidableEq ι] {cells : Cells ι V σ} {memory : σ}
    {stack : List (Frame ι V σ)} {cell : Cell ι V σ i} :
    without out ⟨cells.put i (some cell), memory, stack⟩ =
      ⟨(cells.without out).put i (some (cell.without out)), memory,
        stack.map (Frame.without out)⟩ := by
  rw [without, Cells.without_put, Option.map_some]

@[simp] theorem Trace.without_nil : without out ([] : Trace ι V) = [] := rfl

@[simp] theorem Trace.without_append (tr tr' : Trace ι V) :
    without out (tr ++ tr') = tr.without out ++ tr'.without out :=
  List.filter_append ..

theorem Trace.without_cons {e : Event (V i)} (quiet : e.turn? = none) (tr : Trace ι V) :
    without out (⟨i, e⟩ :: tr) = ⟨i, e⟩ :: tr.without out := by
  simp [without, quiet]

theorem Trace.without_turn {e : Event (V i)} {id : Nat} (turn : e.turn? = some id)
    (stays : out i id = false) : without out [⟨i, e⟩] = [⟨i, e⟩] := by
  simp [without, turn, stays]

theorem Trace.without_turn_out {e : Event (V i)} {id : Nat} (turn : e.turn? = some id)
    (left : out i id = true) : without out [⟨i, e⟩] = [] := by
  simp [without, turn, left]

end Equations

/-! ## Steps -/

variable [DecidableEq ι] {j : ι} {out : (i : ι) → Nat → Bool} {m m' : Machine ι V σ}
  {es : Trace ι V}

/-- The cell is gone, and the registrations that are left out do nothing while it is. -/
structure Machine.Inert (m : Machine ι V σ) (j : ι) (out : (i : ι) → Nat → Bool) : Prop where
  gone : m.cells j = none
  vain : ∀ i id, out i id = true → ∃ p, m.InPhase i p ∧ p.Taken id (·.Vain j)

/-- The next turn of a round is that of a subscriber that is not left out. -/
def Machine.Ready (m : Machine ι V σ) (out : (i : ι) → Nat → Bool) : Prop :=
  ∀ {i value called s pending rest}, m.stack = .round i value called (s :: pending) :: rest →
    (m.cells i).isSome → out i s.id = false

theorem Machine.Inert.of_turns (h : m.Inert j out) (gone : m'.cells j = none)
    (turns : ∀ {i id p}, out i id = true → m.InPhase i p →
      ∃ es q, Turns p es q ∧ m'.InPhase i q) : m'.Inert j out := by
  refine ⟨gone, ?_⟩
  intro i id left
  rcases h.vain i id left with ⟨p, phase, taken⟩
  rcases turns left phase with ⟨es, q, turns, after⟩
  exact ⟨q, after, turns.taken taken⟩

/-- The next subscriber is not left out. -/
theorem Machine.Inert.new_number (h : m.Inert j out) {i : ι} {cell : Cell ι V σ i}
    (here : m.cells i = some cell) : out i cell.nextId = false := by
  rw [Bool.eq_false_iff]
  intro left
  -- Numbers that are left out have been given away, and the next one has not.
  rcases h.vain i _ left with ⟨p, phase, taken⟩
  have next : p.nextId = cell.nextId := by
    cases p with
    | resting | delivering =>
        rcases Option.some.inj (here.symm.trans phase.1) with rfl
        rfl
    | due => cases phase
    | _ => simp [show m.cells i = none from phase.1] at here
  exact Nat.lt_irrefl _ (next ▸ taken.below)

theorem Move.inert (move : Move m es m') (h : m.Inert j out) : m'.Inert j out := by
  refine h.of_turns (move.gone h.gone) ?_
  intro i id p left phase
  rcases move.turns phase with ⟨q, turns, after⟩
  exact ⟨_, q, turns, after⟩

theorem Course.inert {n : Nat} (course : Course n m es m') (h : m.Inert j out) :
    m'.Inert j out := by
  induction course with
  | refl => exact h
  | cons busy first rest ih => exact ih (first.inert h)

/-- A step that is not about those who are left out is the step without them. -/
theorem Move.without (move : Move m es m') (inert : m.Inert j out) (ready : m.Ready out) :
    Move (m.without out) (es.without out) (m'.without out) := by
  -- Nothing but the lists of subscribers has changed, so each step is one of the same kind.  A turn
  -- could be missing from the list, and a newcomer could be left out; `ready` and `inert` say that
  -- they are not.
  cases move with
  | idle => exact .idle
  | done => exact .done
  | @get cells memory rest i next =>
      have step : Move ⟨cells.without out, memory, .act (.get i next) ::
          rest.map (Frame.without out)⟩ [] _ := .get
      rw [Cells.without_value] at step
      exact step
  | remember => exact .remember
  | note => exact .note
  | storeNowhere gone => exact .storeNowhere (Cells.without_gone gone)
  | subscribeNowhere gone => exact .subscribeNowhere (Cells.without_gone gone)
  | withdrawNowhere gone => exact .withdrawNowhere (Cells.without_gone gone)
  | enrolNowhere gone => exact .enrolNowhere (Cells.without_gone gone)
  | roundNowhere gone => exact .roundNowhere (Cells.without_gone gone)
  | @subscribe cells memory rest i callback next cell here =>
      have step : Move ⟨cells.without out, memory, .act (.subscribe i callback next) ::
          rest.map (Frame.without out)⟩ [] _ := .subscribe (Cells.without_here here)
      exact step
  | @storeLater cells memory rest i value next cell here busy =>
      have step : Move ⟨cells.without out, memory, .act (.set i value next) ::
          rest.map (Frame.without out)⟩ _ _ := .storeLater (Cells.without_here here) busy
      rw [Machine.without_put]
      exact step
  | @store cells memory rest i value next cell here free =>
      have step : Move ⟨cells.without out, memory, .act (.set i value next) ::
          rest.map (Frame.without out)⟩ _ _ := .store (Cells.without_here here) free
      rw [Machine.without_put]
      exact step
  | @withdraw cells memory rest i id next cell here =>
      have step : Move ⟨cells.without out, memory, .act (.unsubscribe i id next) ::
          rest.map (Frame.without out)⟩ _ _ := .withdraw (Cells.without_here here)
      rw [← Cell.without_withdraw] at step
      rw [Machine.without_put]
      exact step
  | @enrol cells memory rest i callback next cell here =>
      have step : Move ⟨cells.without out, memory, .enrol i callback next ::
          rest.map (Frame.without out)⟩ _ _ := .enrol (Cells.without_here here)
      rw [← Cell.without_observe (inert.new_number here)] at step
      rw [Machine.without_put]
      exact step
  | @pass cells memory rest i value called pending s cell here absent =>
      have stays : out i s.id = false := ready rfl (by simp [here])
      have step : Move ⟨cells.without out, memory, .round i value (remaining out called)
          (s :: remaining out pending) :: rest.map (Frame.without out)⟩ _ _ :=
        .pass (Cells.without_here here) absent
      rw [Trace.without_turn rfl stays]
      simpa [Machine.without, Frame.without, remaining_cons stays] using step
  | @call cells memory rest i value called pending s cell here present =>
      have stays : out i s.id = false := ready rfl (by simp [here])
      have step : Move ⟨cells.without out, memory, .round i value (remaining out called)
          (s :: remaining out pending) :: rest.map (Frame.without out)⟩ _ _ :=
        .call (Cells.without_here here) present
      rw [Trace.without_turn rfl stays]
      simpa [Machine.without, Frame.without, remaining_cons stays] using step
  | @again cells memory rest i value called cell here dirty =>
      have step : Move ⟨cells.without out, memory, .round i value (remaining out called) [] ::
          rest.map (Frame.without out)⟩ _ _ :=
        .again (remaining out called) (Cells.without_here here) dirty
      rw [← Cell.without_endRound] at step
      rw [Machine.without_put]
      exact step
  | @finish cells memory rest i value called cell here clean =>
      have step : Move ⟨cells.without out, memory, .round i value (remaining out called) [] ::
          rest.map (Frame.without out)⟩ _ _ :=
        .finish (remaining out called) (Cells.without_here here) clean
      rw [← Cell.without_endRound] at step
      rw [Machine.without_put]
      exact step

/-- The turn of somebody who is left out comes to nothing. -/
theorem Machine.Inert.skip {cells : Cells ι V σ} {memory : σ} {rest : List (Frame ι V σ)} {i : ι}
    {value : V i} {called pending : List (Subscriber ι V σ i)} {s : Subscriber ι V σ i}
    {cell : Cell ι V σ i}
    (h : Inert ⟨cells, memory, .round i value called (s :: pending) :: rest⟩ j out)
    (here : cells i = some cell) (left : out i s.id = true) :
    ∃ n es, es.without out = [] ∧
      Course n ⟨cells, memory, .round i value called (s :: pending) :: rest⟩ es
        ⟨cells, memory, .round i value (called ++ [s]) pending :: rest⟩ := by
  by_cases absent : s.id ∈ cell.removed
  · exact ⟨1, _, Trace.without_turn_out rfl left, .event (.pass here absent) (.refl _)⟩
  · rcases h.vain i s.id left with ⟨p, phase, taken⟩
    rcases phase.delivering here rfl with ⟨rfl, -, -⟩
    have vain : s.Vain j := taken.holder s (by simp [Phase.subscribers]) rfl
    rcases (vain value).course h.gone with ⟨n, course⟩
    exact ⟨n + 1, _, Trace.without_turn_out rfl left, .event (.call here absent) course⟩

/-- After the turns of those who are left out, somebody else is next or nobody is. -/
theorem Machine.Inert.settle (h : m.Inert j out) :
    ∃ n es m', Course n m es m' ∧ m'.Ready out ∧ m'.without out = m.without out ∧
      es.without out = [] := by
  by_cases ready : m.Ready out
  · exact ⟨0, [], m, .refl m, ready, rfl, rfl⟩
  · -- A round is on top, and the induction goes through those who wait for their turn in it.
    rcases m with ⟨cells, memory, stack⟩
    simp only [Ready, not_forall] at ready
    rcases ready with ⟨i, value, called, s, pending, rest, rfl, there, -⟩
    rcases Option.isSome_iff_exists.1 there with ⟨cell, here⟩
    clear there
    generalize s :: pending = waiting at h
    induction waiting generalizing called with
    | nil => exact ⟨0, [], _, .refl _, nofun, rfl, rfl⟩
    | cons s waiting ih =>
        cases left : out i s.id with
        | false =>
            refine ⟨0, [], _, .refl _, ?_, rfl, rfl⟩
            rintro i' value' called' s' pending' rest' ⟨⟩ -
            exact left
        | true =>
            obtain ⟨n, es, silent, course⟩ := h.skip here left
            obtain ⟨k, fs, m', more, ready, same, silent'⟩ := ih (called ++ [s]) (course.inert h)
            refine ⟨n + k, es ++ fs, m', course.trans more, ready, ?_, ?_⟩
            · rw [same]
              simp [Machine.without, Frame.without, remaining_cons_out left]
            · rw [Trace.without_append, silent, silent']
              rfl

/-- A step without those who are left out is one or more steps with them. -/
theorem Machine.Inert.advance (h : m.Inert j out) (busy : m.stack ≠ []) :
    ∃ n es m', Course (n + 1) m es m' ∧ m'.without out = (m.without out).step ∧
      es.without out = (m.without out).events := by
  -- First those who are left out have their turns, and then comes a step that both take.
  obtain ⟨n, es, m₁, course, ready, same, silent⟩ := h.settle
  have still : m₁.stack ≠ [] := by
    intro empty
    have image := congrArg stack same
    rw [without, without, empty] at image
    exact busy (List.map_eq_nil_iff.1 image.symm)
  rcases (m₁.move.without (course.inert h) ready).eq with ⟨events, next⟩
  have step : Course 1 m₁ (m₁.events ++ []) m₁.step := .cons still m₁.move (.refl _)
  refine ⟨n, _, m₁.step, course.trans step, ?_, ?_⟩
  · rw [← next, same]
  · rw [List.append_nil, Trace.without_append, silent, ← events, same]
    rfl

/-! ## Programs -/

section Networks

variable {net : Network ι V σ} {i : ι}

theorem create_without (value : V i) :
    (net.create i value).without out = (net.without out).create i value := by
  simp only [without, create, Cells.without_put, Option.map_some]
  rfl

theorem drop_without (i : ι) : (net.drop i).without out = (net.without out).drop i := by
  simp [without, Network.drop, Cells.without_put]

theorem observe_without (callback : V i → Action ι V σ)
    (new : ∀ cell, net.cells i = some cell → out i cell.nextId = false) :
    (net.observe i callback).without out = (net.without out).observe i callback := by
  simp only [without, observe, Cells.without_put, Network.mk.injEq, and_true]
  congr 1
  cases here : net.cells i with
  | none => rw [Cells.without_gone here]; rfl
  | some cell =>
      rw [Cells.without_here here, Option.map_some, Option.map_some, Option.map_some,
        Cell.without_observe (new cell here)]

omit [DecidableEq ι] in
theorem observeEvents_without (net : Network ι V σ) (i : ι) :
    (net.without out).observeEvents i = net.observeEvents i := by
  unfold observeEvents
  cases here : net.cells i with
  | none => rw [show (net.without out).cells i = none from Cells.without_gone here]
  | some cell => rw [show (net.without out).cells i = some _ from Cells.without_here here]; rfl

omit [DecidableEq ι] in
theorem observeEvents_silent (net : Network ι V σ) (i : ι) :
    (net.observeEvents i).without out = net.observeEvents i := by
  unfold observeEvents
  split <;> rfl

omit [DecidableEq ι] in
theorem value?_without (net : Network ι V σ) (i : ι) :
    (net.without out).value? i = net.value? i :=
  Cells.without_value net.cells i

theorem Machine.Inert.create (h : net.idle.Inert j out) (apart : j ≠ i)
    (unused : ∀ id, out i id = false) (value : V i) : (net.create i value).idle.Inert j out := by
  refine h.of_turns ((Cells.put_other _ _ apart).trans h.gone) ?_
  intro k id p left phase
  have other : k ≠ i := by
    rintro rfl
    rw [unused] at left
    cases left
  obtain ⟨q, turns, after⟩ := create_turns value phase (fun same => absurd same other)
  exact ⟨_, q, turns, after⟩

theorem Machine.Inert.observe (h : net.idle.Inert j out) (i : ι) (callback : V i → Action ι V σ) :
    (net.observe i callback).idle.Inert j out := by
  refine h.of_turns ?_ ?_
  · have away : net.idle.InPhase j (.gone 0) := ⟨h.gone, rfl⟩
    obtain ⟨q, turns, after⟩ := observe_turns callback away
    rw [turns.of_gone.2] at after
    exact after.1
  · intro k id p left phase
    obtain ⟨q, turns, after⟩ := observe_turns callback phase
    exact ⟨_, q, turns, after⟩

variable {link : Link ι V σ} (h : net.idle.Inert j out) (apart : j ≠ link.target)
  (unused : ∀ id, out link.target id = false)
include h apart unused

/-- Half of a link: its target, and its callback with the first source. -/
theorem half_without (value : V link.target) :
    ((net.create link.target value).observe link.left link.onLeft).without out =
      ((net.without out).create link.target value).observe link.left link.onLeft := by
  have created := h.create apart unused value
  have new : ∀ cell, (net.create link.target value).cells link.left = some cell →
      out link.left cell.nextId = false := by
    intro cell here
    exact created.new_number here
  rw [observe_without link.onLeft new, create_without]

/-- A link that is made gets numbers that are not left out. -/
theorem derive_without {x : V link.left} {y : V link.right} (left : net.value? link.left = some x)
    (right : net.value? link.right = some y) :
    (net.derive link).without out = (net.without out).derive link := by
  let half := (net.create link.target (link.compute x y)).observe link.left link.onLeft
  have observed : half.idle.Inert j out :=
    (h.create apart unused (link.compute x y)).observe link.left link.onLeft
  have new : ∀ cell, half.cells link.right = some cell → out link.right cell.nextId = false := by
    intro cell here
    exact observed.new_number here
  have left' : (net.without out).value? link.left = some x := (value?_without net _).trans left
  have right' : (net.without out).value? link.right = some y := (value?_without net _).trans right
  have cells : (net.derive link).cells.without out = ((net.without out).derive link).cells := by
    calc (net.derive link).cells.without out
        = ((half.observe link.right link.onRight).without out).cells := by
          rw [derive_eq left right]
          rfl
      _ = ((half.without out).observe link.right link.onRight).cells := by
          rw [observe_without link.onRight new]
      _ = ((((net.without out).create link.target (link.compute x y)).observe link.left
            link.onLeft).observe link.right link.onRight).cells := by
          rw [half_without h apart unused]
      _ = ((net.without out).derive link).cells := (derive_eq left' right').symm
  have memory : (net.derive link).memory = ((net.without out).derive link).memory := by
    simp only [derive, left, right, left', right']
    rfl
  exact congrArg₂ Network.mk cells memory

theorem deriveEvents_without (value : V link.target) :
    (net.deriveEvents link value).without out = (net.without out).deriveEvents link value := by
  -- The numbers that the link gets are the same, and its events are nobody's turns.
  have same : (net.without out).deriveEvents link value = net.deriveEvents link value := by
    rw [deriveEvents, deriveEvents, ← half_without h apart unused, ← create_without,
      observeEvents_without, observeEvents_without]
  rw [same, deriveEvents, Trace.without_cons rfl, Trace.without_append, observeEvents_silent,
    observeEvents_silent]

end Networks

section Rests

variable {allowed : Action ι V σ → Prop} {tr : Trace ι V} {net : Network ι V σ}
  {ops : List (Op ι V σ)}

/-- The registrations that are left out are those of cells that are known. -/
def Known (tr : Trace ι V) (j : ι) (out : (i : ι) → Nat → Bool) : Prop :=
  tr.of j ≠ [] ∧ ∀ i id, out i id = true → tr.of i ≠ []

theorem Rest.inert (rest : Rest allowed tr net ops es m) (known : Known tr j out)
    (h : net.idle.Inert j out) : m.Inert j out := by
  refine h.of_turns (rest.gone known.1 h.gone) ?_
  intro i id p left phase
  obtain ⟨q, turns, after⟩ := rest.turns (known.2 i id left) phase
  exact ⟨_, q, turns, after⟩

/-- Leaving turns out makes no cell new. -/
theorem Known.fresh_iff (known : Known tr j out) (es : Trace ι V) (i : ι) :
    (tr ++ es.without out).of i = [] ↔ (tr ++ es).of i = [] := by
  simp only [Trace.of_append, List.append_eq_nil_iff, and_congr_right_iff]
  intro fresh
  -- Nobody of a new cell is left out, so all of its events stay.
  have stays : ∀ id, out i id = false := by
    intro id
    rw [Bool.eq_false_iff]
    exact fun left => known.2 i id left fresh
  have same : ∀ e : Event (V i), e ∈ (es.without out).of i ↔ e ∈ es.of i := by
    intro e
    have kept : e.turn?.any (out i) = false := by
      cases e.turn? with
      | none => rfl
      | some id => exact stays id
    rw [Trace.mem_of, Trace.mem_of, Trace.without, List.mem_filter, kept]
    simp
  simp only [List.eq_nil_iff_forall_not_mem, same]

theorem Known.unused (known : Known tr j out) {i : ι} (fresh : (tr ++ es).of i = []) (id : Nat) :
    out i id = false := by
  rw [Bool.eq_false_iff]
  exact fun left => Trace.ne_of_fresh (known.2 i id left) fresh rfl

theorem Course.rest {n : Nat} {fs : Trace ι V} (course : Course n m fs m')
    (rest : Rest allowed tr net ops es m) : Rest allowed tr net ops (es ++ fs) m' := by
  induction course generalizing es with
  | refl => simpa using rest
  | cons busy first _ ih =>
      rcases first.eq with ⟨told, next⟩
      have more := rest.step
      rw [told, next] at more
      simpa using ih more

/-- An idle machine is its own image, whatever the limit. -/
theorem mirror_idle {net now : Network ι V σ} :
    (∃ n, Rest allowed tr net ops ((es ++ now.idle.trace n).without out)
      ((now.idle.run n).without out)) ↔
        Rest allowed tr net ops (es.without out) (now.without out).idle := by
  constructor
  · rintro ⟨n, image⟩
    rcases (Course.refl now.idle).run_eq rfl (Nat.zero_le n) with ⟨ends, silent⟩
    rw [ends, silent, List.append_nil] at image
    exact image
  · intro image
    refine ⟨0, ?_⟩
    rw [Machine.trace, List.append_nil]
    exact image

/-- Whatever a program does with them, it does without them, if only it is given some more steps:
those that a callback of theirs that is running takes to its end. -/
theorem Rest.forward (rest : Rest allowed tr net ops es m) (known : Known tr j out)
    (inert : net.idle.Inert j out) :
    ∃ n, Rest allowed tr (net.without out) ops ((es ++ m.trace n).without out)
      ((m.run n).without out) := by
  -- While nothing runs, both stand at the same place.  While something runs the image may be `n`
  -- steps ahead, and it waits until these have been made.
  induction rest with
  | now => exact mirror_idle.2 .now
  | create rest fresh value ih =>
      rw [mirror_idle] at ih ⊢
      rw [Trace.without_append, create_without]
      exact ih.create ((known.fresh_iff _ _).2 fresh) value
  | derive rest fresh left right ih =>
      rw [mirror_idle] at ih ⊢
      have now := rest.inert known inert
      have apart := Trace.ne_of_fresh known.1 fresh
      have unused := known.unused fresh
      rw [Trace.without_append, derive_without now apart unused left right,
        deriveEvents_without now apart unused]
      exact ih.derive ((known.fresh_iff _ _).2 fresh) ((value?_without _ _).trans left)
        ((value?_without _ _).trans right)
  | drop rest here ih =>
      rw [mirror_idle] at ih ⊢
      rw [Trace.without_append, drop_without]
      exact ih.drop (Cells.without_here here)
  | start rest ok ih =>
      rw [mirror_idle] at ih
      refine ⟨0, ?_⟩
      rw [Machine.trace, List.append_nil]
      exact ih.start ok
  | @step ops es m rest ih =>
      rcases ih with ⟨n, image⟩
      by_cases idle : m.stack = []
      · rcases Machine.step_idle idle with ⟨stay, silent⟩
        rw [stay, silent, List.append_nil]
        exact ⟨n, image⟩
      · cases n with
        | succ n =>
            rw [Machine.run_succ idle, Machine.trace, ← List.append_assoc] at image
            exact ⟨n, image⟩
        | zero =>
            -- The image is up to date, so it takes its next step.
            obtain ⟨n, fs, m', course, next, told⟩ := (rest.inert known inert).advance idle
            rcases course.ends with ⟨ends, events⟩
            rw [Machine.run_succ idle] at ends
            rw [Machine.trace] at events
            rw [Machine.trace, List.append_nil] at image
            refine ⟨n, ?_⟩
            rw [List.append_assoc, events, ends, Trace.without_append, next, told]
            exact image.step

omit [DecidableEq ι] in
/-- What has an idle image is idle. -/
theorem idle_of_without {net : Network ι V σ} (image : m.without out = net.idle) :
    ∃ now : Network ι V σ, m = now.idle ∧ now.without out = net := by
  rcases m with ⟨cells, memory, stack⟩
  obtain rfl : stack = [] := List.map_eq_nil_iff.1 (congrArg Machine.stack image)
  exact ⟨⟨cells, memory⟩, rfl, idle_injective image⟩

/-- Whatever a program does without them, it does with them. -/
theorem Rest.backward (rest : Rest allowed tr (net.without out) ops es m) (known : Known tr j out)
    (inert : net.idle.Inert j out) :
    ∃ es' m', Rest allowed tr net ops es' m' ∧ es'.without out = es ∧ m'.without out = m := by
  induction rest with
  | now => exact ⟨[], net.idle, .now, rfl, rfl⟩
  | create rest fresh value ih =>
      obtain ⟨es, m, real, rfl, image⟩ := ih
      obtain ⟨now, rfl, rfl⟩ := idle_of_without image
      rw [known.fresh_iff] at fresh
      refine ⟨_, _, real.create fresh value, Trace.without_append _ _, ?_⟩
      rw [← create_without]
      rfl
  | derive rest fresh left right ih =>
      obtain ⟨es, m, real, rfl, image⟩ := ih
      obtain ⟨now, rfl, rfl⟩ := idle_of_without image
      rw [known.fresh_iff] at fresh
      rw [value?_without] at left right
      have same := real.inert known inert
      have apart := Trace.ne_of_fresh known.1 fresh
      have unused := known.unused fresh
      refine ⟨_, _, real.derive fresh left right, ?_, ?_⟩
      · rw [Trace.without_append, deriveEvents_without same apart unused]
      · rw [← derive_without same apart unused left right]
        rfl
  | drop rest here ih =>
      obtain ⟨es, m, real, rfl, image⟩ := ih
      obtain ⟨now, rfl, rfl⟩ := idle_of_without image
      rcases Option.map_eq_some_iff.1 here with ⟨cell, there, -⟩
      refine ⟨_, _, real.drop there, Trace.without_append _ _, ?_⟩
      rw [← drop_without]
      rfl
  | start rest ok ih =>
      obtain ⟨es, m, real, rfl, image⟩ := ih
      obtain ⟨now, rfl, rfl⟩ := idle_of_without image
      exact ⟨_, _, real.start ok, rfl, rfl⟩
  | step rest ih =>
      obtain ⟨es, m, real, rfl, rfl⟩ := ih
      by_cases idle : m.stack = []
      · have still : (m.without out).stack = [] := List.map_eq_nil_iff.2 idle
        rcases Machine.step_idle still with ⟨stay, silent⟩
        rw [stay, silent, List.append_nil]
        exact ⟨es, m, real, rfl, rfl⟩
      · -- The turns of those who are left out go before the step that was made.
        obtain ⟨n, fs, m', course, next, told⟩ := (real.inert known inert).advance idle
        refine ⟨_, _, course.rest real, ?_, next⟩
        rw [Trace.without_append, told]

end Rests
end Network
end FormSnippet
