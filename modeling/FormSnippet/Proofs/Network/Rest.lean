import FormSnippet.Proofs.Network.Reserved

/-!
# Rest — what follows a moment at which nothing runs

A `Run` tells everything from the outset.  A `Rest` tells what a program does from some network on,
operation by operation and step by step, so that two networks can be compared under the same
operations.  Cells that are made still have to be new, which is why the events up to that network
are kept in mind.

- `Op`                  : what a program does while nothing runs
- `Rest`                : its operations, what they do, and the machine as it stands
- `Run.rest_of_made`    : a run is a rest since any of its links was made
- `Rest.turns`          : each cell goes through the turns that the events tell
- `Rest.invariant`      : what holds whenever nobody stores in a cell, and is kept by every step
-/

namespace FormSnippet
namespace Network

inductive Op (ι : Type) (V : ι → Type) (σ : Type)
  | create (i : ι) (value : V i)
  | derive (link : Link ι V σ)
  | drop (i : ι)
  | start (action : Action ι V σ)

variable {ι : Type} [DecidableEq ι] {V : ι → Type} {σ : Type}

/-- What a program does from the network on, of which `tr` has been told: its operations, their
events, and the machine as it stands.  The program only performs actions that are `allowed`. -/
inductive Rest (allowed : Action ι V σ → Prop) (tr : Trace ι V) (net : Network ι V σ) :
    List (Op ι V σ) → Trace ι V → Machine ι V σ → Prop
  | now : Rest allowed tr net [] [] net.idle
  | create {ops : List (Op ι V σ)} {es : Trace ι V} {now : Network ι V σ} {i : ι}
      (rest : Rest allowed tr net ops es now.idle) (fresh : (tr ++ es).of i = []) (value : V i) :
      Rest allowed tr net (ops ++ [.create i value]) (es ++ [⟨i, .created value⟩])
        (now.create i value).idle
  | derive {ops : List (Op ι V σ)} {es : Trace ι V} {now : Network ι V σ} {link : Link ι V σ}
      {x : V link.left} {y : V link.right} (rest : Rest allowed tr net ops es now.idle)
      (fresh : (tr ++ es).of link.target = []) (left : now.value? link.left = some x)
      (right : now.value? link.right = some y) :
      Rest allowed tr net (ops ++ [.derive link])
        (es ++ now.deriveEvents link (link.compute x y)) (now.derive link).idle
  | drop {ops : List (Op ι V σ)} {es : Trace ι V} {now : Network ι V σ} {i : ι}
      {cell : Cell ι V σ i} (rest : Rest allowed tr net ops es now.idle)
      (here : now.cells i = some cell) :
      Rest allowed tr net (ops ++ [.drop i]) (es ++ [⟨i, .dropped⟩]) (now.drop i).idle
  | start {ops : List (Op ι V σ)} {es : Trace ι V} {now : Network ι V σ} {action : Action ι V σ}
      (rest : Rest allowed tr net ops es now.idle) (ok : allowed action) :
      Rest allowed tr net (ops ++ [.start action]) es (now.start action)
  | step {ops : List (Op ι V σ)} {es : Trace ι V} {m : Machine ι V σ}
      (rest : Rest allowed tr net ops es m) :
      Rest allowed tr net ops (es ++ m.events) m.step

variable {allowed : Action ι V σ → Prop} {tr es : Trace ι V} {links : List (Link ι V σ)}
  {net : Network ι V σ} {ops : List (Op ι V σ)} {m : Machine ι V σ}

/-- A run that has made a link is a rest since then. -/
theorem Run.rest_of_made (run : Run allowed tr links m) {link : Link ι V σ} (made : link ∈ links) :
    ∃ (before : Trace ι V) (links' : List (Link ι V σ)) (net : Network ι V σ) (x : V link.left)
      (y : V link.right), Run allowed before links' net.idle ∧ before.of link.target = [] ∧
        net.value? link.left = some x ∧ net.value? link.right = some y ∧
        ∃ ops es, tr = before ++ net.deriveEvents link (link.compute x y) ++ es ∧
          Rest allowed (before ++ net.deriveEvents link (link.compute x y)) (net.derive link)
            ops es m := by
  -- The induction is on the run.  Making the link starts the rest, and whatever the run does after
  -- that, the rest does too.
  induction run with
  | empty => cases made
  | create run fresh value ih =>
      obtain ⟨before, links', net, x, y, run', new, left, right, ops, es, rfl, rest⟩ := ih made
      exact ⟨before, links', net, x, y, run', new, left, right, _, _, by simp,
        rest.create fresh value⟩
  | @derive tr links now link' x y run fresh left right ih =>
      rcases List.mem_cons.1 made with rfl | earlier
      · exact ⟨tr, links, now, x, y, run, fresh, left, right, [], [], by simp, .now⟩
      · obtain ⟨before, links', net, x', y', run', new, left', right', ops, es, rfl, rest⟩ :=
          ih earlier
        exact ⟨before, links', net, x', y', run', new, left', right', _, _, by simp,
          rest.derive fresh left right⟩
  | drop run here ih =>
      obtain ⟨before, links', net, x, y, run', new, left, right, ops, es, rfl, rest⟩ := ih made
      exact ⟨before, links', net, x, y, run', new, left, right, _, _, by simp, rest.drop here⟩
  | start run ok ih =>
      obtain ⟨before, links', net, x, y, run', new, left, right, ops, es, rfl, rest⟩ := ih made
      exact ⟨before, links', net, x, y, run', new, left, right, _, _, rfl, rest.start ok⟩
  | step run ih =>
      obtain ⟨before, links', net, x, y, run', new, left, right, ops, es, rfl, rest⟩ := ih made
      exact ⟨before, links', net, x, y, run', new, left, right, _, _, by simp, rest.step⟩

/-- A cell that something has happened to is not made anew. -/
theorem Trace.ne_of_fresh {i j : ι} (known : tr.of i ≠ []) (fresh : (tr ++ es).of j = []) :
    i ≠ j := by
  rintro rfl
  rw [of_append] at fresh
  exact known (List.append_eq_nil_iff.1 fresh).1

namespace Rest

/-- Each cell that something has happened to goes through the turns that the events tell. -/
theorem turns (rest : Rest allowed tr net ops es m) {i : ι} (known : tr.of i ≠ [])
    {p : Phase ι V σ i} (h : net.idle.InPhase i p) :
    ∃ q, Turns p (es.of i) q ∧ m.InPhase i q := by
  -- A cell or a target that is made is new, so it is not the cell `i`.
  induction rest with
  | now => exact ⟨p, .refl p, h⟩
  | create rest fresh value ih =>
      rcases ih with ⟨q, before, now⟩
      obtain ⟨r, turn, after⟩ := create_turns value now
        (fun same => absurd same (Trace.ne_of_fresh known fresh))
      exact ⟨r, by simpa using before.trans turn, after⟩
  | derive rest fresh left right ih =>
      rcases ih with ⟨q, before, now⟩
      obtain ⟨r, turns, after⟩ := derive_turns left right now
        (fun same => absurd same (Trace.ne_of_fresh known fresh))
      exact ⟨r, by simpa using before.trans turns, after⟩
  | drop rest here ih =>
      rcases ih with ⟨q, before, now⟩
      obtain ⟨r, turn, after⟩ := drop_turns here now
      exact ⟨r, by simpa using before.trans turn, after⟩
  | start rest ok ih =>
      rcases ih with ⟨q, before, now⟩
      exact ⟨q, before, now.congr rfl rfl⟩
  | step rest ih =>
      rcases ih with ⟨q, before, now⟩
      rcases (Machine.move _).turns now with ⟨r, turns, after⟩
      exact ⟨r, by simpa using before.trans turns, after⟩

/-- A cell that was dropped stays away. -/
theorem gone (rest : Rest allowed tr net ops es m) {j : ι} (known : tr.of j ≠ [])
    (gone : net.cells j = none) : m.cells j = none := by
  -- There is no turn that leads out of this phase, whichever number it carries.
  have before : net.idle.InPhase j (.gone 0) := ⟨gone, rfl⟩
  obtain ⟨q, turns, after⟩ := rest.turns known before
  rw [turns.of_gone.2] at after
  exact after.1

theorem steps (rest : Rest allowed tr net ops es m) (n : Nat) :
    Rest allowed tr net ops (es ++ m.trace n) (m.run n) := by
  induction n generalizing m es with
  | zero => simpa [Machine.trace, Machine.run] using rest
  | succ n ih =>
      by_cases idle : m.stack = []
      · simpa [Machine.trace_idle idle, Machine.run, idle] using rest
      · rw [Machine.run_succ idle, Machine.trace, ← List.append_assoc]
        exact ih rest.step

/-- Suppose that it holds whenever nobody stores in the cell, that it says so of those who are
registered, and that every step keeps it.  Then it holds from now on. -/
theorem invariant {t : ι} {own : (i : ι) → Subscriber ι V σ i → Prop}
    {Holds : Machine ι V σ → Prop} (rest : Rest (·.Spares t) tr net ops es m)
    (known : tr.of t ≠ []) (tame : ∀ {m}, Holds m → m.cells.Tame t own)
    (calm : ∀ {ops es m}, Rest (·.Spares t) tr net ops es m → m.cells.Tame t own →
      (∀ frame ∈ m.stack, frame.Spares t own) → Holds m)
    (step : ∀ {m}, Holds m → Holds m.step) (start : net.cells.Tame t own) : Holds m := by
  -- What is done while nothing runs registers callbacks of links with other targets only.
  induction rest with
  | now => exact calm .now start (by simp [idle])
  | create rest fresh value ih =>
      exact calm (rest.create fresh value) (create_tame value (tame ih)) (by simp [idle])
  | @derive ops es now link x y rest fresh left right ih =>
      have other : link.target ≠ t := Ne.symm (Trace.ne_of_fresh known fresh)
      refine calm (rest.derive fresh left right) ?_ (by simp [idle])
      exact derive_tame (tame ih) left right (fun _ _ => .inr (Link.onLeft_spares other))
        (fun _ _ => .inr (Link.onRight_spares other))
  | drop rest here ih => exact calm (rest.drop here) (drop_tame _ (tame ih)) (by simp [idle])
  | @start ops es now action rest ok ih =>
      have cells : now.cells.Tame t own := tame ih
      refine calm (rest.start ok) cells ?_
      simpa [Network.start, Frame.Spares] using ok
  | step rest ih => exact step ih

end Rest
end Network
end FormSnippet
