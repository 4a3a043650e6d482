import FormSnippet.Proofs.Network.Reserved

/-!
# Derived — the target of a link is up to date whenever nothing runs

A callback of a link combines a delivered value, which may be out of date, with the present value of
the other source.  What it stores may be wrong, then; but a source that has changed since owes its
callback another call.  While anything runs, one of four things holds: the target is up to date, or
a callback is about to store the right value, or one of the two sources owes its callback a call
(`Link.Current`).  Nothing is owed once nothing runs, which leaves the first.

- `Linked`       : a callback of a link that is still registered
- `Link.Current` : the four cases
- `Link.Watch`   : a link whose cells are all there, with both callbacks registered
-/

namespace FormSnippet
namespace Network

/-! ## Callbacks of links -/

section Linked

variable {ι : Type} [DecidableEq ι] {V : ι → Type} {σ : Type} {i : ι}

/-- The callback is registered with the cell, which is in the phase; a link has registered it. -/
structure Linked (tr : Trace ι V) (m : Machine ι V σ) (s : Subscriber ι V σ i)
    (p : Phase ι V σ i) : Prop where
  turns : Turns .unborn (tr.of i) p
  phase : m.InPhase i p
  kept : s ∈ p.kept
  linked : .linked s.id ∈ tr.of i

namespace Linked

variable {tr es : Trace ι V} {m m' : Machine ι V σ} {s : Subscriber ι V σ i} {p q : Phase ι V σ i}

theorem ordered (h : Linked tr m s p) : p.Ordered :=
  h.turns.ordered (by simp [Phase.Ordered, Phase.subscribers])

theorem fresh (h : Linked tr m s p) : p.Fresh :=
  h.turns.fresh trivial

theorem value (h : Linked tr m s p) : ∃ x, (m.cells i).map (·.value) = some x := by
  rw [h.phase.value]
  cases p with
  | unborn | gone => cases h.kept
  | _ => exact ⟨_, rfl⟩

theorem stays (h : Linked tr m s p) (turns : Turns p (es.of i) q)
    (handed : HandedOut ((tr ++ es).of i)) : .withdrawn s.id ∉ es.of i := by
  intro withdrawn
  have whole : Turns .unborn ((tr ++ es).of i) q := by
    simpa using h.turns.trans turns
  have linked : .linked s.id ∈ (tr ++ es).of i := by
    simp [h.linked]
  exact whole.linked_stays handed linked (by simp [withdrawn])

theorem extend (h : Linked tr m s p) (turns : Turns p (es.of i) q) (phase : m'.InPhase i q)
    (handed : HandedOut ((tr ++ es).of i)) (alive : .dropped ∉ es.of i) :
    Linked (tr ++ es) m' s q where
  turns := by simpa using h.turns.trans turns
  phase := phase
  kept := turns.kept h.kept (h.stays turns handed) alive
  linked := by simp [h.linked]

/-- If a round comes to the number of the callback, then to the callback, whose call was owed. -/
theorem owes_of_turn {x : V i} {before after : List (Subscriber ι V σ i)} {s' : Subscriber ι V σ i}
    {rest : List (Frame ι V σ)} {cell : Cell ι V σ i} (h : Linked tr m s p)
    (stack : m.stack = .round i x before (s' :: after) :: rest) (here : m.cells i = some cell)
    (number : s'.id = s.id) : s' = s ∧ p.Owes s := by
  rcases h.phase.delivering here stack with ⟨round, -, -⟩
  have same : s' = s := by
    refine h.ordered.eq_of_id_eq ?_ ((Phase.kept_sublist _).subset h.kept) number
    simp [round, Phase.subscribers]
  refine ⟨same, ?_⟩
  rw [round]
  exact .inr (by simp [same])

theorem owes_of_called {x : V i} (h : Linked tr m s p) (move : Move m es m')
    (called : ⟨i, .called s.id x⟩ ∈ es) : p.Owes s := by
  obtain ⟨s', before, after, rest, cell, number, here, stack, -⟩ :=
    move.call_of_called (Trace.mem_of.2 called)
  exact (h.owes_of_turn stack here number).2

/-- If a call is owed, it is still owed after a step, or it is made with the present value. -/
theorem owes (h : Linked tr m s p) (move : Move m es m') (turns : Turns p (es.of i) q)
    (handed : HandedOut ((tr ++ es).of i)) (owed : p.Owes s) :
    q.Owes s ∨ ∃ x rest, (m.cells i).map (·.value) = some x ∧ m'.cells = m.cells ∧
      m'.stack = .act (s.callback x) :: rest := by
  by_cases called : ∃ x, .called s.id x ∈ es.of i
  · -- Numbers are unique, so it is this callback that is called.
    rcases called with ⟨x, called⟩
    obtain ⟨s', before, after, rest, cell, number, here, stack, cells, ⟨below, top⟩, only⟩ :=
      move.call_of_called called
    rcases h.owes_of_turn stack here number with ⟨rfl, -⟩
    rw [only] at turns
    rcases turns.head with ⟨q', turn, rest⟩
    cases rest with
    | refl =>
        rcases turn.owes h.ordered h.fresh h.kept owed with still | ⟨x', told, present⟩
        · exact .inl still
        · cases told
          exact .inr ⟨x, below, h.phase.value.trans present, cells, top⟩
  · refine .inl (turns.owes h.ordered h.fresh h.kept owed (h.stays turns handed)
      move.not_dropped ?_)
    exact not_exists.1 called

/-- A call is owed as soon as a value is stored. -/
theorem owes_of_stored (h : Linked tr m s p) (move : Move m es m') (turns : Turns p (es.of i) q)
    (handed : HandedOut ((tr ++ es).of i)) {value : V i} (stored : .stored value ∈ es.of i) :
    q.Owes s := by
  refine turns.owes_of_stored h.ordered h.fresh h.kept stored (h.stays turns handed)
    move.not_dropped ?_
  intro x called
  rcases move.call_of_called called with ⟨-, -, -, -, -, -, -, -, -, -, only⟩
  rw [only] at stored
  cases List.mem_singleton.1 stored

end Linked
end Linked

/-! ## Links -/

section Links

variable {ι : Type} {V : ι → Type} {σ : Type}

/-- The action goes on to store the value in the cell, with nothing but reads before. -/
def Action.Stores (cells : Cells ι V σ) (t : ι) (value : V t) : Action ι V σ → Prop
  | .get i next => (next ((cells i).map (·.value))).Stores cells t value
  | .note _ next => next.Stores cells t value
  | .set i stored _ => (⟨i, stored⟩ : (i : ι) × V i) = ⟨t, value⟩
  | _ => False

theorem isSome_cells (net : Network ι V σ) (i : ι) :
    (net.cells i).isSome = (net.value? i).isSome := by
  simp [value?]

namespace Link

/-- The cells that a link connects. -/
def Has (link : Link ι V σ) (i : ι) : Prop :=
  i = link.left ∨ i = link.right ∨ i = link.target

theorem hasLeft (link : Link ι V σ) : link.Has link.left := .inl rfl

theorem hasRight (link : Link ι V σ) : link.Has link.right := .inr (.inl rfl)

theorem hasTarget (link : Link ι V σ) : link.Has link.target := .inr (.inr rfl)

variable (link : Link ι V σ) (l r : Nat)

/-- The subscribers of the link, which have these numbers. -/
inductive Own : (i : ι) → Subscriber ι V σ i → Prop
  | left : Own link.left ⟨l, link.onLeft⟩
  | right : Own link.right ⟨r, link.onRight⟩

/-- The target has the value that the link computes from those of the sources. -/
def Settled (cells : Cells ι V σ) : Prop :=
  ∃ x y, (cells link.left).map (·.value) = some x ∧ (cells link.right).map (·.value) = some y ∧
    (cells link.target).map (·.value) = some (link.compute x y)

/-- The top frame is about to store that value. -/
def Settling (m : Machine ι V σ) : Prop :=
  ∃ x y action rest, (m.cells link.left).map (·.value) = some x ∧
    (m.cells link.right).map (·.value) = some y ∧ m.stack = .act action :: rest ∧
      action.Stores m.cells link.target (link.compute x y)

/-- The target is right, or will be put right. -/
inductive Current (m : Machine ι V σ) (p : Phase ι V σ link.left) (q : Phase ι V σ link.right) :
    Prop
  | settled (calm : ∀ frame ∈ m.stack, frame.Spares link.target (link.Own l r))
      (settled : link.Settled m.cells)
  | settling (settling : link.Settling m)
  | owedLeft (owed : p.Owes ⟨l, link.onLeft⟩)
  | owedRight (owed : q.Owes ⟨r, link.onRight⟩)

variable {link l r}

theorem Own.refreshes {i : ι} {s : Subscriber ι V σ i} (own : link.Own l r i s) (value : V i) :
    (s.callback value).Refreshes link.target := by
  cases own with
  | left => exact link.onLeft_refreshes value
  | right => exact link.onRight_refreshes value

theorem onLeft_stores {cells : Cells ι V σ} {x : V link.left} {y : V link.right}
    (alive : (cells link.target).isSome) (right : (cells link.right).map (·.value) = some y) :
    (link.onLeft x).Stores cells link.target (link.compute x y) := by
  rcases Option.isSome_iff_exists.1 alive with ⟨cell, here⟩
  simp [onLeft, refresh, Action.Stores, here, right]

theorem onRight_stores {cells : Cells ι V σ} {x : V link.left} {y : V link.right}
    (alive : (cells link.target).isSome) (left : (cells link.left).map (·.value) = some x) :
    (link.onRight y).Stores cells link.target (link.compute x y) := by
  rcases Option.isSome_iff_exists.1 alive with ⟨cell, here⟩
  simp [onRight, refresh, Action.Stores, here, left]

end Link
end Links

/-! ## Steps -/

namespace Link

variable {ι : Type} [DecidableEq ι] {V : ι → Type} {σ : Type} {link : Link ι V σ} {l r : Nat}

/-- The cells of the link are there, and both of its callbacks are registered. -/
structure Watch (link : Link ι V σ) (tr : Trace ι V) (m : Machine ι V σ) (l r : Nat)
    (p : Phase ι V σ link.left) (q : Phase ι V σ link.right) : Prop where
  left : Linked tr m ⟨l, link.onLeft⟩ p
  right : Linked tr m ⟨r, link.onRight⟩ q
  notLeft : link.left ≠ link.target
  notRight : link.right ≠ link.target
  alive : (m.cells link.target).isSome
  reserved : m.Reserved link.target (link.Own l r)
  current : link.Current l r m p q

namespace Watch

variable {tr es : Trace ι V} {m m' : Machine ι V σ} {p p' : Phase ι V σ link.left}
  {q q' : Phase ι V σ link.right}

/-- An owed call is made at last, and what it stores then is right. -/
theorem current_of_owedLeft (h : link.Watch tr m l r p q) (move : Move m es m')
    (turns : Turns p (es.of link.left) p') (handed : HandedOut ((tr ++ es).of link.left))
    (owed : p.Owes ⟨l, link.onLeft⟩) : link.Current l r m' p' q' := by
  rcases h.left.owes move turns handed owed with still | ⟨x, rest, left, same, top⟩
  · exact .owedLeft still
  · rcases h.right.value with ⟨y, right⟩
    refine .settling ⟨x, y, _, rest, by rw [same, left], by rw [same, right], top, ?_⟩
    rw [same]
    exact onLeft_stores h.alive right

theorem current_of_owedRight (h : link.Watch tr m l r p q) (move : Move m es m')
    (turns : Turns q (es.of link.right) q') (handed : HandedOut ((tr ++ es).of link.right))
    (owed : q.Owes ⟨r, link.onRight⟩) : link.Current l r m' p' q' := by
  rcases h.right.owes move turns handed owed with still | ⟨y, rest, right, same, top⟩
  · exact .owedRight still
  · rcases h.left.value with ⟨x, left⟩
    refine .settling ⟨x, y, _, rest, by rw [same, left], by rw [same, right], top, ?_⟩
    rw [same]
    exact onRight_stores h.alive left

/-- A callback that is about to store the right value goes on to do so. -/
theorem current_of_settling (h : link.Watch tr m l r p q) (move : Move m es m')
    (settling : link.Settling m) : link.Current l r m' p' q' := by
  rcases settling with ⟨x, y, action, rest, left, right, top, stores⟩
  cases action with
  | get | note =>
      cases move <;> cases top
      exact .settling ⟨x, y, _, _, left, right, rfl, stores⟩
  | set i value next =>
      cases stores
      have refreshing : (∀ stored, next stored = .done) ∧
          ∀ frame ∈ rest, frame.Spares link.target (link.Own l r) := by
        have orderly := h.reserved.stack
        rw [top] at orderly
        cases orderly with
        | calm spares => exact absurd rfl (List.forall_mem_cons.1 spares).1.1
        | refreshing refreshes below => exact ⟨refreshes.2, below⟩
      rcases move.refreshed top h.reserved.cells refreshing.1 refreshing.2 with ⟨-, calm⟩
      -- The value goes to the target, so that the sources keep theirs.
      have elsewhere : ∀ {i : ι}, i ≠ link.target → ∀ value, .stored value ∉ es.of i := by
        intro i other value stored
        rcases move.store_of_stored stored with ⟨next', rest', top'⟩
        rw [top] at top'
        cases top'
        exact other rfl
      refine .settled calm ⟨x, y, ?_, ?_, ?_⟩
      · rw [move.value_eq (elsewhere h.notLeft), left]
      · rw [move.value_eq (elsewhere h.notRight), right]
      · cases move <;> cases top
        · next gone =>
            have alive := h.alive
            simp [gone] at alive
        · simp
        · simp [Cell.beginRound]
  | _ => cases stores

/-- While the target is right, it is not stored to, and when a source is, a call is owed. -/
theorem current_of_settled (h : link.Watch tr m l r p q) (move : Move m es m')
    (left : Turns p (es.of link.left) p') (right : Turns q (es.of link.right) q')
    (handedLeft : HandedOut ((tr ++ es).of link.left))
    (handedRight : HandedOut ((tr ++ es).of link.right))
    (calm : ∀ frame ∈ m.stack, frame.Spares link.target (link.Own l r))
    (settled : link.Settled m.cells) : link.Current l r m' p' q' := by
  -- What is stored in a source makes that source owe a call.
  by_cases storedLeft : ∃ value, .stored value ∈ es.of link.left
  · rcases storedLeft with ⟨value, stored⟩
    exact .owedLeft (h.left.owes_of_stored move left handedLeft stored)
  by_cases storedRight : ∃ value, .stored value ∈ es.of link.right
  · rcases storedRight with ⟨value, stored⟩
    exact .owedRight (h.right.owes_of_stored move right handedRight stored)
  rcases move.calm h.reserved.cells calm with ⟨-, calm' | ⟨i, s, value, rest, own, called, -⟩⟩
  · -- Otherwise all three values stay, since no frame stores in the target.
    have untouched : ∀ value, .stored value ∉ es.of link.target := by
      intro value stored
      rcases move.store_of_stored stored with ⟨next, rest, top⟩
      rw [top] at calm
      exact (List.forall_mem_cons.1 calm).1.1 rfl
    rcases settled with ⟨x, y, hx, hy, hz⟩
    refine .settled calm' ⟨x, y, ?_, ?_, ?_⟩
    · rw [move.value_eq (not_exists.1 storedLeft), hx]
    · rw [move.value_eq (not_exists.1 storedRight), hy]
    · rw [move.value_eq untouched, hz]
  · -- A callback of the link can only be called if its call was owed.
    cases own with
    | left => exact h.current_of_owedLeft move left handedLeft (h.left.owes_of_called move called)
    | right =>
        exact h.current_of_owedRight move right handedRight (h.right.owes_of_called move called)

/-- A step leaves the link in order, if only those withdraw who may. -/
theorem step (h : link.Watch tr m l r p q) (move : Move m es m')
    (handedLeft : HandedOut ((tr ++ es).of link.left))
    (handedRight : HandedOut ((tr ++ es).of link.right)) :
    ∃ p' q', link.Watch (tr ++ es) m' l r p' q' := by
  rcases move.turns h.left.phase with ⟨p', left, leftPhase⟩
  rcases move.turns h.right.phase with ⟨q', right, rightPhase⟩
  refine ⟨p', q', ?_⟩
  exact
    { left := h.left.extend left leftPhase handedLeft move.not_dropped
      right := h.right.extend right rightPhase handedRight move.not_dropped
      notLeft := h.notLeft
      notRight := h.notRight
      alive := by rw [move.isSome_eq]; exact h.alive
      reserved := move.reserved (fun i s own => own.refreshes) h.reserved
      current := by
        cases h.current with
        | settled calm settled =>
            exact h.current_of_settled move left right handedLeft handedRight calm settled
        | settling settling => exact h.current_of_settling move settling
        | owedLeft owed => exact h.current_of_owedLeft move left handedLeft owed
        | owedRight owed => exact h.current_of_owedRight move right handedRight owed }

/-- When nothing runs, nothing is owed either. -/
theorem settled (h : link.Watch tr m l r p q) (idle : m.stack = []) : link.Settled m.cells := by
  have quiet : ∀ {i : ι} {s : Subscriber ι V σ i} {p : Phase ι V σ i}, Linked tr m s p →
      ¬ p.Owes s := by
    intro i s p linked owed
    rcases linked.value with ⟨x, value⟩
    rcases Option.map_eq_some_iff.1 value with ⟨cell, here, -⟩
    rw [linked.phase.rests idle here] at owed
    cases owed
  cases h.current with
  | settled calm settled => exact settled
  | settling settling =>
      rcases settling with ⟨x, y, action, rest, -, -, top, -⟩
      rw [idle] at top
      cases top
  | owedLeft owed => exact absurd owed (quiet h.left)
  | owedRight owed => exact absurd owed (quiet h.right)

theorem start {net : Network ι V σ} {action : Action ι V σ} (h : link.Watch tr net.idle l r p q)
    (spares : action.Spares link.target) : link.Watch tr (net.start action) l r p q := by
  have calm : ∀ frame ∈ (net.start action).stack, frame.Spares link.target (link.Own l r) := by
    simpa [Network.start, Frame.Spares] using spares
  have leftPhase : (net.start action).InPhase link.left p := h.left.phase.congr rfl rfl
  have rightPhase : (net.start action).InPhase link.right q := h.right.phase.congr rfl rfl
  exact
    { left := { h.left with phase := leftPhase }
      right := { h.right with phase := rightPhase }
      notLeft := h.notLeft
      notRight := h.notRight
      alive := h.alive
      reserved := ⟨h.reserved.cells, .calm calm⟩
      current := .settled calm (h.settled rfl) }

/-- What a program does while nothing runs leaves a link in order if it leaves the values. -/
theorem rest {net net' : Network ι V σ} (h : link.Watch tr net.idle l r p q)
    (left : Turns p (es.of link.left) p') (leftPhase : net'.idle.InPhase link.left p')
    (right : Turns q (es.of link.right) q') (rightPhase : net'.idle.InPhase link.right q')
    (handedLeft : HandedOut ((tr ++ es).of link.left))
    (handedRight : HandedOut ((tr ++ es).of link.right))
    (same : ∀ i, link.Has i → net'.value? i = net.value? i)
    (tame : net'.cells.Tame link.target (link.Own l r)) :
    link.Watch (tr ++ es) net'.idle l r p' q' := by
  rcases h.settled rfl with ⟨x, y, hx, hy, hz⟩
  have hx' : net'.value? link.left = some x := (same _ link.hasLeft).trans hx
  have hy' : net'.value? link.right = some y := (same _ link.hasRight).trans hy
  have hz' : net'.value? link.target = some (link.compute x y) :=
    (same _ link.hasTarget).trans hz
  have hereLeft : (net'.cells link.left).isSome := by
    simp [isSome_cells, hx']
  have hereRight : (net'.cells link.right).isSome := by
    simp [isSome_cells, hy']
  exact
    { left := h.left.extend left leftPhase handedLeft (leftPhase.not_dropped left hereLeft)
      right := h.right.extend right rightPhase handedRight
        (rightPhase.not_dropped right hereRight)
      notLeft := h.notLeft
      notRight := h.notRight
      alive := by simp [idle, isSome_cells, hz']
      reserved := ⟨tame, .calm (by simp [idle])⟩
      current := .settled (by simp [idle]) ⟨x, y, hx', hy', hz'⟩ }

/-- Other cells come and go. -/
theorem elsewhere {net : Network ι V σ} (h : link.Watch tr net.idle l r p q) {j : ι}
    (e : Event (V j)) (cell : Option (Cell ι V σ j)) (other : ∀ i, link.Has i → i ≠ j)
    (handedLeft : HandedOut (Trace.of (tr ++ [⟨j, e⟩]) link.left))
    (handedRight : HandedOut (Trace.of (tr ++ [⟨j, e⟩]) link.right))
    (tame : (net.cells.put j cell).Tame link.target (link.Own l r)) :
    link.Watch (tr ++ [⟨j, e⟩]) (idle ⟨net.cells.put j cell, net.memory⟩) l r p q := by
  have quiet : ∀ i, link.Has i → Trace.of [⟨j, e⟩] i = [] := by
    intro i mine
    rw [Trace.of_cons_other (Ne.symm (other i mine)), Trace.of_nil]
  have same : ∀ i, link.Has i → net.cells.put j cell i = net.cells i :=
    fun i mine => Cells.put_other _ _ (other i mine)
  refine h.rest ?_ (h.left.phase.congr (same _ link.hasLeft) rfl) ?_
    (h.right.phase.congr (same _ link.hasRight) rfl) handedLeft handedRight ?_ tame
  · rw [quiet _ link.hasLeft]
    exact .refl p
  · rw [quiet _ link.hasRight]
    exact .refl q
  · intro i mine
    exact congrArg (Option.map (·.value)) (same i mine)

end Watch
end Link

/-! ## Runs -/

section Runs

variable {ι : Type} [DecidableEq ι] {V : ι → Type} {σ : Type} {link : Link ι V σ} {tr : Trace ι V}
  {links : List (Link ι V σ)} {m : Machine ι V σ} {net : Network ι V σ}

/-- The cells of a link that was made are or were there. -/
theorem Run.known_of_made {allowed : Action ι V σ → Prop} (run : Run allowed tr links m)
    (made : link ∈ links) : ∀ i, link.Has i → tr.of i ≠ [] := by
  have grow : ∀ {tr es : Trace ι V} {i : ι}, tr.of i ≠ [] → (tr ++ es).of i ≠ [] := by
    intro tr es i some
    simp [some]
  induction run with
  | empty => cases made
  | create run fresh value ih | drop run here ih | step run ih =>
      exact fun i mine => grow (ih made i mine)
  | start run ok ih => exact ih made
  | @derive tr links net link' x y run fresh left right ih =>
      rcases List.mem_cons.1 made with rfl | before
      · rintro i (rfl | rfl | rfl)
        · exact grow (run.known (by simp [idle, isSome_cells, left]))
        · exact grow (run.known (by simp [idle, isSome_cells, right]))
        · simp [deriveEvents]
      · exact fun i mine => grow (ih before i mine)

/-- Making a link registers its two callbacks, and nothing else. -/
theorem derive_registers {x : V link.left} {y : V link.right}
    (left : net.value? link.left = some x) (right : net.value? link.right = some y)
    (notLeft : link.left ≠ link.target) (notRight : link.right ≠ link.target) :
    ∃ l r, net.deriveEvents link (link.compute x y) =
        [⟨link.target, .created (link.compute x y)⟩, ⟨link.left, .linked l⟩,
          ⟨link.right, .linked r⟩] ∧
      (∃ cell, (net.derive link).cells link.left = some cell ∧
        ⟨l, link.onLeft⟩ ∈ cell.subscribers) ∧
      (∃ cell, (net.derive link).cells link.right = some cell ∧
        ⟨r, link.onRight⟩ ∈ cell.subscribers) ∧
      ∀ {t : ι} {own : (i : ι) → Subscriber ι V σ i → Prop}, net.cells.Tame t own →
        own link.left ⟨l, link.onLeft⟩ → own link.right ⟨r, link.onRight⟩ →
          (net.derive link).cells.Tame t own := by
  -- The cells of the sources are followed through the three steps, since the second source may be
  -- the first.
  let created := net.create link.target (link.compute x y)
  let observed := created.observe link.left link.onLeft
  have derived : (net.derive link).cells = (observed.observe link.right link.onRight).cells :=
    derive_eq left right
  have createdLeft : created.value? link.left = some x :=
    (create_value_other net _ notLeft).trans left
  have observedRight : observed.value? link.right = some y :=
    (observe_value _ _ _ _).trans ((create_value_other net _ notRight).trans right)
  rcases Option.map_eq_some_iff.1 createdLeft with ⟨a, hereLeft, -⟩
  rcases Option.map_eq_some_iff.1 observedRight with ⟨b, hereRight, -⟩
  rcases observe_here link.onLeft hereLeft with ⟨observedLeft, linkedLeft⟩
  rcases observe_here link.onRight hereRight with ⟨derivedRight, linkedRight⟩
  rcases observe_keeps link.right link.onRight observedLeft with ⟨a', derivedLeft, more⟩
  refine ⟨a.nextId, b.nextId, ?_, ⟨a', ?_, ?_⟩, ⟨b.observe link.onRight, ?_, ?_⟩, ?_⟩
  · show _ :: (created.observeEvents link.left ++ observed.observeEvents link.right) = _
    rw [linkedLeft, linkedRight]
    rfl
  · rw [derived, derivedLeft]
  · exact more _ (by simp [Cell.observe])
  · rw [derived, derivedRight]
  · simp [Cell.observe]
  · intro t own tame ownLeft ownRight
    refine derive_tame tame left right ?_ ?_
    · intro c here
      rcases Option.some.inj (here.symm.trans hereLeft) with rfl
      exact .inl ownLeft
    · intro c here
      rcases Option.some.inj (here.symm.trans hereRight) with rfl
      exact .inl ownRight

/-- The sources of a link that is made are not its target, which is a cell of its own. -/
theorem Run.sources_ne_target {allowed : Action ι V σ → Prop} {x : V link.left} {y : V link.right}
    (run : Run allowed tr links net.idle) (fresh : tr.of link.target = [])
    (left : net.value? link.left = some x) (right : net.value? link.right = some y) :
    link.left ≠ link.target ∧ link.right ≠ link.target := by
  have others : ∀ i, (net.value? i).isSome → i ≠ link.target := by
    rintro i here rfl
    exact run.known (by simpa [value?, idle] using here) fresh
  exact ⟨others _ (by simp [left]), others _ (by simp [right])⟩

/-- Before the link is made, nobody stores in its target. -/
theorem Run.tame_of_fresh (run : Run (·.Spares link.target) tr links net.idle)
    (fresh : tr.of link.target = []) (own : (i : ι) → Subscriber ι V σ i → Prop) :
    net.cells.Tame link.target own := by
  have apart : ∀ link' ∈ links, link'.target ≠ link.target := by
    intro link' made same
    exact run.known_of_made made _ link'.hasTarget (same ▸ fresh)
  exact (run.reserved apart).cells.mono (fun _ _ none => none.elim)

/-- A link that has just been made is in order. -/
theorem Run.watch_of_derive {x : V link.left} {y : V link.right}
    (run : Run (·.Spares link.target) tr links net.idle) (fresh : tr.of link.target = [])
    (left : net.value? link.left = some x) (right : net.value? link.right = some y) :
    ∃ l r p q, link.Watch (tr ++ net.deriveEvents link (link.compute x y)) (net.derive link).idle
      l r p q := by
  have value := derive_value left right
  obtain ⟨notLeft, notRight⟩ := run.sources_ne_target fresh left right
  obtain ⟨l, r, events, ⟨a, hereLeft, registeredLeft⟩, ⟨b, hereRight, registeredRight⟩, tame⟩ :=
    derive_registers left right notLeft notRight
  rcases (run.derive fresh left right).turns link.left with ⟨p, leftTurns, leftPhase⟩
  rcases (run.derive fresh left right).turns link.right with ⟨q, rightTurns, rightPhase⟩
  have keptLeft : ⟨l, link.onLeft⟩ ∈ p.kept := by
    rw [leftPhase.rests rfl hereLeft]
    exact registeredLeft
  have keptRight : ⟨r, link.onRight⟩ ∈ q.kept := by
    rw [rightPhase.rests rfl hereRight]
    exact registeredRight
  have linkedLeft :
      .linked l ∈ (tr ++ net.deriveEvents link (link.compute x y)).of link.left := by
    rw [events, Trace.mem_of]
    simp
  have linkedRight :
      .linked r ∈ (tr ++ net.deriveEvents link (link.compute x y)).of link.right := by
    rw [events, Trace.mem_of]
    simp
  have spared : net.cells.Tame link.target (link.Own l r) := run.tame_of_fresh fresh _
  have targetValue : (net.derive link).value? link.target = some (link.compute x y) := by
    rw [value]
    simp [value?, Network.create, Cell.new]
  have leftValue : (net.derive link).value? link.left = some x :=
    (value _).trans ((create_value_other net _ notLeft).trans left)
  have rightValue : (net.derive link).value? link.right = some y :=
    (value _).trans ((create_value_other net _ notRight).trans right)
  refine ⟨l, r, p, q, ?_⟩
  exact
    { left := ⟨leftTurns, leftPhase, keptLeft, linkedLeft⟩
      right := ⟨rightTurns, rightPhase, keptRight, linkedRight⟩
      notLeft := notLeft
      notRight := notRight
      alive := by simp [idle, isSome_cells, targetValue]
      reserved := ⟨tame spared .left .right, .calm (by simp [idle])⟩
      current := .settled (by simp [idle]) ⟨x, y, leftValue, rightValue, targetValue⟩ }

/-- While its cells are there, a link that was made is in order. -/
theorem Run.watched (run : Run (·.Spares link.target) tr links m) (made : link ∈ links)
    (handedLeft : HandedOut (tr.of link.left)) (handedRight : HandedOut (tr.of link.right))
    (here : ∀ i, link.Has i → (m.cells i).isSome) : ∃ l r p q, link.Watch tr m l r p q := by
  have elsewhere : ∀ {cells : Cells ι V σ} {i j : ι} {cell : Option (Cell ι V σ j)}, i ≠ j →
      (cells.put j cell i).isSome → (cells i).isSome := by
    intro cells i j cell other here
    rwa [Cells.put_other _ _ other] at here
  -- Once the link is there, other cells and links come and go without touching its cells, and each
  -- step of an action is a step of the link.
  induction run with
  | empty => cases made
  | @create tr links net j run fresh value ih =>
      have other : ∀ i, link.Has i → i ≠ j := by
        rintro i mine rfl
        exact run.known_of_made made i mine fresh
      obtain ⟨l, r, p, q, watch⟩ := ih made handedLeft.front handedRight.front
        (fun i mine => elsewhere (other i mine) (here i mine))
      exact ⟨l, r, p, q, watch.elsewhere _ _ other handedLeft handedRight
        (create_tame value watch.reserved.cells)⟩
  | @drop tr links net j cell run there ih =>
      -- The dropped cell is none of the three, as those are still there.
      have other : ∀ i, link.Has i → i ≠ j := by
        rintro i mine rfl
        simpa [Network.drop, idle] using here i mine
      obtain ⟨l, r, p, q, watch⟩ := ih made handedLeft.front handedRight.front
        (fun i mine => elsewhere (other i mine) (here i mine))
      exact ⟨l, r, p, q, watch.elsewhere _ _ other handedLeft handedRight
        (drop_tame j watch.reserved.cells)⟩
  | @derive tr links net link' x y run fresh hx hy ih =>
      rcases List.mem_cons.1 made with rfl | before
      · exact run.watch_of_derive fresh hx hy
      · -- A link that is made later has a fresh target, and only adds callbacks to the sources.
        have other : ∀ i, link.Has i → i ≠ link'.target := by
          rintro i mine rfl
          exact run.known_of_made before _ mine fresh
        have same : ∀ i, link.Has i → (net.derive link').value? i = net.value? i :=
          fun i mine => (derive_value hx hy i).trans (create_value_other net _ (other i mine))
        have there : ∀ i, link.Has i → (net.idle.cells i).isSome := by
          intro i mine
          have after := here i mine
          rwa [idle, isSome_cells, same i mine, ← isSome_cells] at after
        rcases ih before handedLeft.front handedRight.front there with ⟨l, r, p, q, watch⟩
        obtain ⟨p', left, leftPhase⟩ := derive_turns hx hy watch.left.phase
          (fun target => absurd target (other _ link.hasLeft))
        obtain ⟨q', right, rightPhase⟩ := derive_turns hx hy watch.right.phase
          (fun target => absurd target (other _ link.hasRight))
        have tame : (net.derive link').cells.Tame link.target (link.Own l r) := by
          have apart := Ne.symm (other _ link.hasTarget)
          exact derive_tame watch.reserved.cells hx hy
            (fun _ _ => .inr (Link.onLeft_spares apart))
            (fun _ _ => .inr (Link.onRight_spares apart))
        exact ⟨l, r, p', q', watch.rest left leftPhase right rightPhase handedLeft handedRight same
          tame⟩
  | start run ok ih =>
      rcases ih made handedLeft handedRight here with ⟨l, r, p, q, watch⟩
      exact ⟨l, r, p, q, watch.start ok⟩
  | @step tr links m run ih =>
      have there : ∀ i, link.Has i → (m.cells i).isSome := by
        intro i mine
        rw [← m.move.isSome_eq]
        exact here i mine
      rcases ih made handedLeft.front handedRight.front there with ⟨l, r, p, q, watch⟩
      rcases watch.step m.move handedLeft handedRight with ⟨p', q', next⟩
      exact ⟨l, r, p', q', next⟩

/-- Whenever nothing runs, the target of a link has the value that the link computes from those of
its sources, as long as all three are there.  The program stores nothing in the target itself, and
withdraws only what a subscription handed out. -/
theorem derived_consistent (run : Run (·.Spares link.target) tr links net.idle)
    (made : link ∈ links) (handedLeft : HandedOut (tr.of link.left))
    (handedRight : HandedOut (tr.of link.right)) (kept : .dropped ∉ tr.of link.target)
    {x : V link.left} {y : V link.right} (left : net.value? link.left = some x)
    (right : net.value? link.right = some y) :
    net.value? link.target = some (link.compute x y) := by
  have target : (net.cells link.target).isSome := by
    rcases run.turns link.target with ⟨p, turns, now⟩
    have alive := turns.alive (run.known_of_made made _ link.hasTarget) kept
    rwa [← now.value, Option.isSome_map] at alive
  have here : ∀ i, link.Has i → (net.idle.cells i).isSome := by
    rintro i (rfl | rfl | rfl)
    · simp [idle, isSome_cells, left]
    · simp [idle, isSome_cells, right]
    · exact target
  rcases run.watched made handedLeft handedRight here with ⟨l, r, p, q, watch⟩
  rcases watch.settled rfl with ⟨x', y', hx, hy, hz⟩
  rcases Option.some.inj (hx.symm.trans left) with rfl
  rcases Option.some.inj (hy.symm.trans right) with rfl
  exact hz

end Runs

/-! ## A sum -/

/-- Adds up the first two of three cells in the third. -/
def adder : Link (Fin 3) (fun _ => Nat) Unit where
  left := 0
  right := 1
  target := 2
  compute := fun x y => x + y
  trace := fun _ _ _ memory => memory

def sum : Network (Fin 3) (fun _ => Nat) Unit :=
  (create (create ⟨fun _ => none, ()⟩ 0 0) 1 5).derive adder

def sumEvents : Trace (Fin 3) (fun _ => Nat) :=
  [⟨0, .created 0⟩, ⟨1, .created 5⟩, ⟨2, .created 5⟩, ⟨0, .linked 0⟩, ⟨1, .linked 0⟩]

theorem sum_run : Run (·.Spares adder.target) sumEvents [adder] sum.idle := by
  have first : Run (·.Spares adder.target) [⟨0, .created 0⟩] []
      (create (V := fun _ => Nat) ⟨fun _ => none, ()⟩ (0 : Fin 3) 0).idle :=
    Run.create (.empty ()) rfl 0
  have second := first.create (i := 1) rfl 5
  have left : (create (create (V := fun _ => Nat) ⟨fun _ => none, ()⟩ 0 0) 1 5).value?
      adder.left = some 0 := rfl
  have right : (create (create (V := fun _ => Nat) ⟨fun _ => none, ()⟩ 0 0) 1 5).value?
      adder.right = some 5 := rfl
  exact second.derive rfl left right

/-- Stores in both summands during the rounds of one of them, and withdraws its own registration
when that has come to three. -/
def climb (value : Nat) : Action (Fin 3) (fun _ => Nat) Unit :=
  if value = 0 then .done
  else if value < 3 then .set 1 value fun _ => .set 0 (value + 1) fun _ => .done
  else .unsubscribe 0 1 fun _ => .done

def ascent : Action (Fin 3) (fun _ => Nat) Unit :=
  .subscribe 0 climb fun _ => .set 0 1 fun _ => .done

theorem climb_spares (value : Nat) : (climb value).Spares adder.target := by
  unfold climb
  split
  · trivial
  · split
    · exact ⟨by decide, fun _ => ⟨by decide, fun _ => trivial⟩⟩
    · exact fun _ => trivial

theorem ascent_spares : ascent.Spares adder.target :=
  ⟨climb_spares, fun _ => ⟨by decide, fun _ => trivial⟩⟩

def peak : Network (Fin 3) (fun _ => Nat) Unit :=
  ⟨((sum.start ascent).run 60).cells, ()⟩

theorem derived_consistent_sum : sum.perform? 60 ascent = some peak ∧ peak.value? 0 = some 3 ∧
    peak.value? 1 = some 2 ∧ peak.value? 2 = some 5 := by
  have ends : sum.perform? 60 ascent = some peak := rfl
  have run := sum_run.perform ascent_spares ends
  have left : Trace.of (sumEvents ++ (sum.start ascent).trace 60) adder.left =
      [.created 0, .linked 0, .enrolled 1] ++
        [.stored 1, .began 1, .called 0 1, .called 1 1, .stored 2, .ended,
          .began 2, .called 0 2, .called 1 2, .stored 3, .ended,
          .began 3, .called 0 3, .called 1 3, .withdrawn 1, .ended] := by
    decide
  have right : Trace.of (sumEvents ++ (sum.start ascent).trace 60) adder.right =
      [.created 5, .linked 0] ++
        [.stored 1, .began 1, .called 0 1, .ended, .stored 2, .began 2, .called 0 2, .ended] := by
    decide
  have handedLeft : HandedOut (Trace.of (sumEvents ++ (sum.start ascent).trace 60) adder.left) := by
    rw [left]
    exact .append (by simp) (by simp)
  have handedRight :
      HandedOut (Trace.of (sumEvents ++ (sum.start ascent).trace 60) adder.right) := by
    rw [right]
    exact .append (by simp) (by simp)
  exact ⟨ends, rfl, rfl,
    derived_consistent run (by simp) handedLeft handedRight (by decide) rfl rfl⟩

end Network
end FormSnippet
