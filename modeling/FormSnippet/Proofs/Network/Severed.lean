import FormSnippet.Proofs.Network.Derived
import FormSnippet.Proofs.Network.Without

/-!
# Severed — links that have lost a cell

When one of the three cells of a link is gone, the callbacks of the link stay registered with those
sources that are left, and are called in every round of theirs.  They read, find that a cell is
gone, and stop.  So the target keeps the value that it had, nothing is computed any more, and nobody
else could tell whether the callbacks are still registered.

- `Machine.Frozen`  : nobody stores in the cell, now that another one is gone
- `Link.Placed`     : which registrations are those of the link
- `Link.Severed`    : what is left of the link
- `link_severed`    : a link is severed by the loss of any of its cells
-/

namespace FormSnippet
namespace Network

variable {ι : Type} {V : ι → Type} {σ : Type}

/-! ## Callbacks of a link without one of its cells -/

namespace Link

variable {link : Link ι V σ} {j : ι}

theorem onLeft_vain (missing : j = link.right ∨ j = link.target) (x : V link.left) :
    (link.onLeft x).Vain j := by
  intro target there
  cases target with
  | none => trivial
  | some _ =>
      intro y present
      cases y with
      | none => trivial
      | some y =>
          rcases missing with rfl | rfl
          · cases present rfl
          · cases there rfl

theorem onRight_vain (missing : j = link.left ∨ j = link.target) (y : V link.right) :
    (link.onRight y).Vain j := by
  intro target there
  cases target with
  | none => trivial
  | some _ =>
      intro x present
      cases x with
      | none => trivial
      | some x =>
          rcases missing with rfl | rfl
          · cases present rfl
          · cases there rfl

/-- A callback of the link does nothing once another cell of the link is gone. -/
theorem Own.vain {l r : Nat} {i : ι} {s : Subscriber ι V σ i} (own : link.Own l r i s)
    (mine : link.Has j) (other : i ≠ j) : s.Vain j := by
  cases own with
  | left => exact onLeft_vain (mine.resolve_left (Ne.symm other))
  | right =>
      refine onRight_vain ?_
      rcases mine with left | right | target
      · exact .inl left
      · exact absurd right.symm other
      · exact .inr target

end Link

/-! ## Nobody stores in the target -/

/-- All frames spare cell `t`, or all but the top one, which does nothing while cell `j` is gone. -/
inductive Still (t j : ι) : List (Frame ι V σ) → Prop
  | calm {stack : List (Frame ι V σ)}
      (spares : ∀ frame ∈ stack, frame.Spares t (fun _ s => s.Vain j)) : Still t j stack
  | reading {action : Action ι V σ} {rest : List (Frame ι V σ)} (vain : action.Vain j)
      (spares : ∀ frame ∈ rest, frame.Spares t (fun _ s => s.Vain j)) :
      Still t j (.act action :: rest)

structure Machine.Frozen (m : Machine ι V σ) (t j : ι) : Prop where
  gone : m.cells j = none
  cells : m.cells.Tame t (fun _ s => s.Vain j)
  stack : Still t j m.stack

variable [DecidableEq ι] {t j : ι} {m m' : Machine ι V σ} {es : Trace ι V}

theorem Move.frozen (move : Move m es m') (h : m.Frozen t j) : m'.Frozen t j := by
  rcases h with ⟨gone, cells, stack⟩
  have away : m'.cells j = none := move.gone gone
  generalize same : m.stack = frames at stack
  cases stack with
  | calm spares =>
      -- The only subscribers that need not spare the cell are those that do nothing.
      subst same
      rcases move.calm cells spares with ⟨tame, calm | ⟨i, s, value, rest, vain, -, top, below⟩⟩
      · exact ⟨away, tame, .calm calm⟩
      · exact ⟨away, tame, by rw [top]; exact .reading (vain value) below⟩
  | @reading action rest vain spares =>
      cases action with
      | done =>
          cases move <;> cases same
          exact ⟨away, cells, .calm spares⟩
      | get i next =>
          -- A read of cell `j` finds it gone, which is all that the action needs to stay vain.
          cases move <;> cases same
          refine ⟨away, cells, .reading (vain _ ?_) spares⟩
          rintro rfl
          exact congrArg _ gone
      | _ => cases vain

namespace Machine.Frozen

variable (h : m.Frozen t j)
include h

theorem unstored (value : V t) : .stored value ∉ m.events.of t := by
  intro stored
  rcases m.move.store_of_stored stored with ⟨next, rest, top⟩
  have stack := h.stack
  rw [top] at stack
  cases stack with
  | calm spares => exact absurd rfl (List.forall_mem_cons.1 spares).1.1
  | reading vain spares => exact vain

omit [DecidableEq ι] in
theorem not_refreshing {link : Link ι V σ} (target : link.target = t) (x : V link.left)
    (y : V link.right) (rest : List (Frame ι V σ)) : m.stack ≠ .act (link.refresh x y) :: rest := by
  intro top
  have stack := h.stack
  rw [top] at stack
  cases stack with
  | calm spares => exact absurd target (List.forall_mem_cons.1 spares).1.1
  | reading vain spares => exact vain

end Machine.Frozen

omit [DecidableEq ι] in
/-- A cell that rests, and in which nothing is stored, calls nobody and keeps its value as long as
it is there. -/
theorem Turns.of_resting {i : ι} {p q : Phase ι V σ i} {es : List (Event (V i))}
    (whole : Turns p es q) (unstored : ∀ x, .stored x ∉ es) {value : V i}
    {subs : List (Subscriber ι V σ i)} {n : Nat} (rests : p = .resting value subs n) :
    turns es = [] ∧ (.dropped ∉ es → q.value? = some value) := by
  -- A round begins only when a value is stored, so the cell goes from rest to rest, or is dropped.
  induction whole generalizing subs n with
  | refl =>
      subst rests
      exact ⟨rfl, fun _ => rfl⟩
  | cons turn rest ih =>
      simp only [List.mem_cons, not_or] at unstored
      subst rests
      cases turn with
      | store old x => exact absurd rfl (unstored x).1
      | drop =>
          rcases rest.of_gone with ⟨rfl, -⟩
          exact ⟨rfl, fun kept => absurd (List.mem_singleton_self _) kept⟩
      | enrol | link | withdraw =>
          rcases ih (fun x => (unstored x).2) rfl with ⟨silent, value⟩
          exact ⟨silent, fun kept => value fun dropped => kept (List.mem_cons_of_mem _ dropped)⟩

section Rests

variable {tr : Trace ι V} {net : Network ι V σ} {ops : List (Op ι V σ)}

theorem stored_notMem_derive {link : Link ι V σ} {made : V link.target} {value : V t} :
    ⟨t, .stored value⟩ ∉ net.deriveEvents link made := by
  have observed : ∀ (net : Network ι V σ) (i : ι), ⟨t, .stored value⟩ ∉ net.observeEvents i := by
    intro net i stored
    unfold observeEvents at stored
    split at stored
    · cases stored
    · cases List.mem_singleton.1 stored
  intro stored
  rcases List.mem_cons.1 stored with first | later
  · cases first
  · rcases List.mem_append.1 later with left | right
    · exact observed _ _ left
    · exact observed _ _ right

variable (target : tr.of t ≠ []) (known : tr.of j ≠ []) (gone : net.cells j = none)
  (tame : net.cells.Tame t (fun _ s => s.Vain j))
include target known gone tame

theorem Rest.frozen (rest : Rest (·.Spares t) tr net ops es m) : m.Frozen t j := by
  have calm : ∀ {ops es m}, Rest (·.Spares t) tr net ops es m →
      m.cells.Tame t (fun _ s => s.Vain j) →
      (∀ frame ∈ m.stack, frame.Spares t (fun _ s => s.Vain j)) → m.Frozen t j := by
    intro ops es m rest cells spares
    exact ⟨rest.gone known gone, cells, .calm spares⟩
  exact rest.invariant target (fun h => h.cells) calm (fun {m} h => m.move.frozen h) tame

/-- Nothing is stored in the cell. -/
theorem Rest.unstored (rest : Rest (·.Spares t) tr net ops es m) (value : V t) :
    .stored value ∉ es.of t := by
  rw [Trace.mem_of]
  -- What is done while nothing runs stores nothing, and every step is one of a frozen machine.
  induction rest with
  | now => exact List.not_mem_nil
  | create rest fresh x ih | drop rest here ih =>
      intro stored
      rcases List.mem_append.1 stored with before | now
      · exact ih before
      · cases List.mem_singleton.1 now
  | derive rest fresh left right ih =>
      intro stored
      rcases List.mem_append.1 stored with before | now
      · exact ih before
      · exact stored_notMem_derive now
  | start rest ok ih => exact ih
  | step rest ih =>
      intro stored
      rcases List.mem_append.1 stored with before | now
      · exact ih before
      · exact (rest.frozen target known gone tame).unstored value (Trace.mem_of.2 now)

end Rests

/-! ## The registrations of a link -/

namespace Link

/-- The numbers of the two callbacks. -/
def numbers (link : Link ι V σ) (l r : Nat) (i : ι) (id : Nat) : Bool :=
  decide (i = link.left ∧ id = l ∨ i = link.right ∧ id = r)

/-- The callbacks of the link have these numbers, and they alone store in the target. -/
structure Placed (link : Link ι V σ) (tr : Trace ι V) (m : Machine ι V σ) (l r : Nat) : Prop where
  left : .linked l ∈ tr.of link.left
  right : .linked r ∈ tr.of link.right
  taken : ∀ i id, link.numbers l r i id = true → ∃ p, m.InPhase i p ∧ p.Taken id (link.Own l r i)
  reserved : m.Reserved link.target (link.Own l r)

end Link

omit [DecidableEq ι] in
/-- The number of a subscriber is its own. -/
theorem Phase.Ordered.taken {i : ι} {p : Phase ι V σ i} (h : p.Ordered) {s : Subscriber ι V σ i}
    (hs : s ∈ p.subscribers) {P : Subscriber ι V σ i → Prop} (holds : P s) : p.Taken s.id P := by
  refine ⟨?_, ?_⟩
  · exact (List.pairwise_append.1 h).2.2 s.id (List.mem_map_of_mem hs) p.nextId (by simp)
  · intro s' hs' same
    rw [h.eq_of_id_eq hs' hs same]
    exact holds

section Links

variable {link : Link ι V σ} {tr : Trace ι V} {links : List (Link ι V σ)} {net : Network ι V σ}

theorem Run.placed (run : Run (·.Spares link.target) tr links m) (made : link ∈ links) :
    ∃ l r, link.Placed tr m l r := by
  obtain ⟨before, links', net, x, y, run', fresh, left, right, ops, es, rfl, rest⟩ :=
    run.rest_of_made made
  obtain ⟨notLeft, notRight⟩ := run'.sources_ne_target fresh left right
  obtain ⟨l, r, events, ⟨a, hereLeft, onLeft⟩, ⟨b, hereRight, onRight⟩, tame⟩ :=
    derive_registers left right notLeft notRight
  have derived := run'.derive fresh left right
  have known := derived.known_of_made List.mem_cons_self
  -- From the moment at which they were registered, the callbacks keep their numbers.
  have placed : ∀ {i : ι} {s : Subscriber ι V σ i} {cell : Cell ι V σ i}, link.Has i →
      (net.derive link).cells i = some cell → s ∈ cell.subscribers → link.Own l r i s →
      ∃ p, m.InPhase i p ∧ p.Taken s.id (link.Own l r i) := by
    intro i s cell mine here listed own
    rcases derived.turns i with ⟨p, turns, phase⟩
    obtain ⟨q, later, now⟩ := rest.turns (known i mine) phase
    have ordered : p.Ordered := turns.ordered (by simp [Phase.Ordered, Phase.subscribers])
    have there : s ∈ p.subscribers := by
      rw [phase.rests rfl here]
      exact listed
    exact ⟨q, now, later.taken (ordered.taken there own)⟩
  refine ⟨l, r, ?_⟩
  exact
    { left := by simp [Trace.mem_of, events]
      right := by simp [Trace.mem_of, events]
      taken := by
        intro i id number
        rcases of_decide_eq_true number with ⟨rfl, rfl⟩ | ⟨rfl, rfl⟩
        · exact placed link.hasLeft hereLeft onLeft .left
        · exact placed link.hasRight hereRight onRight .right
      reserved := by
        refine rest.invariant (known _ link.hasTarget) Machine.Reserved.cells ?_ ?_
          (tame (run'.tame_of_fresh fresh _) .left .right)
        · exact fun _ cells calm => ⟨cells, .calm calm⟩
        · exact fun {m} h => m.move.reserved (fun i s own => own.refreshes) h }

/-! ## Severed links -/

/-- What is left of a link in a network that has lost one of its cells, whatever the program does
from now on.  The program stores nothing in the target itself. -/
structure Link.Severed (link : Link ι V σ) (past : Trace ι V) (net : Network ι V σ) (l r : Nat) :
    Prop where
  /-- The link was given these two numbers by its sources. -/
  linked : .linked l ∈ past.of link.left ∧ .linked r ∈ past.of link.right
  /-- Nobody else has them. -/
  own : ∀ {i cell}, net.cells i = some cell → ∀ s ∈ cell.subscribers,
    link.numbers l r i s.id = true → link.Own l r i s
  /-- The target keeps its value as long as it is there. -/
  keeps : ∀ {ops es m}, Rest (·.Spares link.target) past net ops es m →
    .dropped ∉ es.of link.target → (m.cells link.target).map (·.value) = net.value? link.target
  /-- The link computes nothing. -/
  idles : ∀ {ops es m}, Rest (·.Spares link.target) past net ops es m →
    ∀ x y rest, m.stack ≠ .act (link.refresh x y) :: rest
  /-- No subscriber of the target has a turn. -/
  silent : ∀ {ops es m}, Rest (·.Spares link.target) past net ops es m →
    turns (es.of link.target) = []
  /-- Whatever is done in the network is done in the network without the callbacks of the link, with
  the same events but for the turns of those callbacks.  If one of them is running, the network
  without them is ahead until it has ended. -/
  unmissed : ∀ {ops es m}, Rest (·.Spares link.target) past net ops es m →
    ∃ n, Rest (·.Spares link.target) past (net.without (link.numbers l r)) ops
      ((es ++ m.trace n).without (link.numbers l r)) ((m.run n).without (link.numbers l r))
  /-- And the other way round. -/
  harmless : ∀ {ops es m},
    Rest (·.Spares link.target) past (net.without (link.numbers l r)) ops es m →
      ∃ es' m', Rest (·.Spares link.target) past net ops es' m' ∧
        es'.without (link.numbers l r) = es ∧ m'.without (link.numbers l r) = m

namespace Link.Placed

variable {l r : Nat} (h : link.Placed tr net.idle l r) (mine : link.Has j)
  (gone : net.cells j = none)
include h mine gone

theorem tame : net.cells.Tame link.target (fun _ s => s.Vain j) := by
  intro i cell here s hs
  rcases h.reserved.cells i cell here s hs with own | spares
  · refine .inl (own.vain mine ?_)
    rintro rfl
    simp [show net.cells i = some cell from here] at gone
  · exact .inr spares

theorem inert : net.idle.Inert j (link.numbers l r) := by
  refine ⟨gone, ?_⟩
  intro i id number
  rcases h.taken i id number with ⟨p, phase, taken⟩
  refine ⟨p, phase, taken.below, ?_⟩
  intro s hs same
  refine (taken.holder s hs same).vain mine ?_
  -- Nobody is registered with the cell that is gone.
  rintro rfl
  have none : net.idle.cells i = none := gone
  cases p with
  | resting | delivering => simp [phase.1] at none
  | due => cases phase
  | _ => cases hs

end Link.Placed

theorem Run.severed (run : Run (·.Spares link.target) tr links net.idle) (made : link ∈ links)
    (mine : link.Has j) (gone : net.cells j = none) : ∃ l r, link.Severed tr net l r := by
  rcases run.placed made with ⟨l, r, placed⟩
  have seen := run.known_of_made made
  have tame := placed.tame mine gone
  have known : Known tr j (link.numbers l r) := by
    refine ⟨seen j mine, ?_⟩
    intro i id number
    rcases of_decide_eq_true number with ⟨rfl, -⟩ | ⟨rfl, -⟩
    · exact seen _ link.hasLeft
    · exact seen _ link.hasRight
  -- The target either rests or is gone, and nothing is stored in it.
  have rests : ∀ {ops es m}, Rest (·.Spares link.target) tr net ops es m →
      Network.turns (es.of link.target) = [] ∧ (.dropped ∉ es.of link.target →
        (m.cells link.target).map (·.value) = net.value? link.target) := by
    intro ops es m rest
    have unstored := rest.unstored (seen _ link.hasTarget) (seen j mine) gone tame
    cases here : net.cells link.target with
    | none =>
        have before : net.idle.InPhase link.target (.gone 0) := ⟨here, rfl⟩
        obtain ⟨q, whole, after⟩ := rest.turns (seen _ link.hasTarget) before
        rcases whole.of_gone with ⟨silent, rfl⟩
        have away : m.cells link.target = none := after.1
        exact ⟨by rw [silent]; rfl, fun _ => by simp [away, value?, here]⟩
    | some cell =>
        rcases run.turns link.target with ⟨p, -, before⟩
        obtain ⟨q, whole, after⟩ := rest.turns (seen _ link.hasTarget) before
        rcases whole.of_resting unstored (before.rests rfl here) with ⟨silent, kept⟩
        exact ⟨silent, fun stays => by simp [after.value, kept stays, value?, here]⟩
  refine ⟨l, r, ?_⟩
  exact
    { linked := ⟨placed.left, placed.right⟩
      own := by
        intro i cell here s hs number
        rcases placed.taken i s.id number with ⟨p, phase, taken⟩
        refine taken.holder s ?_ rfl
        rw [phase.rests rfl here]
        exact hs
      keeps := fun rest => (rests rest).2
      idles := fun rest =>
        (rest.frozen (seen _ link.hasTarget) (seen j mine) gone tame).not_refreshing rfl
      silent := fun rest => (rests rest).1
      unmissed := fun rest => rest.forward known (placed.inert mine gone)
      harmless := fun rest => rest.backward known (placed.inert mine gone) }

/-- When one of the cells of a link is dropped, the other cells stay as they are, and from then on
the target is frozen, and nobody can tell whether the callbacks of the link are still registered. -/
theorem link_severed (run : Run (·.Spares link.target) tr links net.idle) (made : link ∈ links)
    (mine : link.Has j) {cell : Cell ι V σ j} (here : net.cells j = some cell) :
    (∀ i, i ≠ j → (net.drop j).cells i = net.cells i) ∧
      ∃ l r, link.Severed (tr ++ [⟨j, .dropped⟩]) (net.drop j) l r := by
  refine ⟨fun i other => Cells.put_other _ _ other, ?_⟩
  exact (run.drop here).severed made mine (Cells.put_same _ _ _)

end Links

/-- Somebody subscribes to the sum and to the second summand, which is changed then. -/
def raise : Action (Fin 3) (fun _ => Nat) Unit :=
  .subscribe adder.target (fun _ => .done) fun _ =>
    .subscribe adder.right (fun _ => .done) fun _ => .set adder.right 7 fun _ => .done

theorem raise_spares : raise.Spares adder.target :=
  ⟨fun _ => trivial, fun _ => ⟨fun _ => trivial, fun _ => ⟨by decide, fun _ => trivial⟩⟩⟩

/-- Without the first summand, the sum stays at five while the second one is told its new value. -/
theorem link_severed_sum :
    let m := ((sum.drop 0).start raise).run 30
    let es := ((sum.drop 0).start raise).trace 30
    es.of 1 = [.enrolled 1, .stored 7, .began 7, .called 0 7, .called 1 7, .ended] ∧
      (m.cells 1).map (·.value) = some 7 ∧ (m.cells 2).map (·.value) = some 5 ∧
      turns (es.of 2) = [] := by
  intro m es
  have here : sum.cells 0 = some ⟨0, [⟨0, adder.onLeft⟩], 1, false, false, []⟩ := rfl
  obtain ⟨-, l, r, severed⟩ := link_severed sum_run List.mem_cons_self adder.hasLeft here
  have rest : Rest (·.Spares adder.target) (sumEvents ++ [⟨0, .dropped⟩]) (sum.drop 0)
      [.start raise] es m := (Rest.now.start raise_spares).steps 30
  have kept : .dropped ∉ es.of adder.target := by decide
  exact ⟨by decide, rfl, severed.keeps rest kept, severed.silent rest⟩

end Network
end FormSnippet
