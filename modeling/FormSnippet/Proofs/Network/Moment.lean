import FormSnippet.Proofs.Network.Derived
import FormSnippet.Proofs.Network.Discipline

/-!
# Moment — a link computes from one moment

A callback of a link combines the delivered value of its own source with the present value of the
other.  A delivered value is out of date only for those who have somebody in front of them: until
the first subscriber of a round has had its turn nothing else happens.  So if nobody had registered
with the sources before the link did, its callbacks are first in every round, and what they combine
is what the sources hold together.  This takes two sources: with one cell in both places, the
second callback of the link is behind the first.

- `First`            : the registration of a link with a cell that had none
- `Machine.Prompt`   : rounds in which nobody has had a turn are up to date
- `Link.Works`       : what a callback of the link is about to do
- `Link.Unmixed`     : no value of the target mixes two moments
- `derived_unmixed`  : the target of a link from two cells has none if the link came first
- `derived_mixed`    : the target of a link from one cell may have some
-/

namespace FormSnippet
namespace Network

/-! ## The first subscriber -/

/-- A link registered the number while there was no other registration. -/
def First {α : Type} (id : Nat) (es : List (Event α)) : Prop :=
  ∃ before after, es = before ++ .linked id :: after ∧ registered before = []

theorem First.append {α : Type} {id : Nat} {es : List (Event α)} (first : First id es)
    (fs : List (Event α)) : First id (es ++ fs) := by
  rcases first with ⟨before, after, rfl, alone⟩
  exact ⟨before, after ++ fs, by simp, alone⟩

section Leading

variable {ι : Type} {V : ι → Type} {σ : Type} {i : ι}

/-- No subscriber has a smaller number, and none will get one. -/
def Phase.From (id : Nat) (p : Phase ι V σ i) : Prop :=
  (∀ s ∈ p.subscribers, id ≤ s.id) ∧ id < p.nextId

theorem Turns.keeps_from {p q : Phase ι V σ i} {es : List (Event (V i))} (turns : Turns p es q)
    {id : Nat} (h : p.From id) : q.From id := by
  have grows := turns.issued_increase.1
  refine ⟨?_, Nat.lt_of_lt_of_le h.2 grows⟩
  intro s hs
  rcases turns.comes hs with old | new
  · exact h.1 s old
  · exact Nat.le_of_lt (Nat.lt_of_lt_of_le h.2 new)

/-- A link that registered first stays in front of everybody. -/
theorem Turns.from_first {p : Phase ι V σ i} {es : List (Event (V i))}
    (turns : Turns .unborn es p) {id : Nat} (first : First id es) : p.From id := by
  rcases first with ⟨before, after, rfl, alone⟩
  rcases turns.split with ⟨q, early, late⟩
  rcases late.head with ⟨r, turn, rest⟩
  -- A link registers while the cell rests, so whoever is in the list is registered.
  refine rest.keeps_from ?_
  cases turn with
  | link value subs n callback =>
      have registrations : registered before = subs.map (·.id) := early.registered_eq.symm
      rw [alone] at registrations
      obtain rfl : subs = [] := List.map_eq_nil_iff.1 registrations.symm
      exact ⟨by simp [Phase.subscribers], Nat.lt_succ_self _⟩

end Leading

/-! ## Rounds that have just begun -/

section Prompt

variable {ι : Type} [DecidableEq ι] {V : ι → Type} {σ : Type}

/-- If the frame is a round, somebody has had a turn in it. -/
def Frame.Begun : Frame ι V σ → Prop
  | .round _ _ called _ => called ≠ []
  | _ => True

/-- A round in which nobody has had a turn is on top of the stack, and delivers the value that its
cell holds. -/
inductive Machine.Prompt (m : Machine ι V σ) : Prop
  | begun (begun : ∀ frame ∈ m.stack, frame.Begun)
  | fresh {i : ι} {value : V i} {pending : List (Subscriber ι V σ i)} {rest : List (Frame ι V σ)}
      (top : m.stack = .round i value [] pending :: rest)
      (present : (m.cells i).map (·.value) = some value) (begun : ∀ frame ∈ rest, frame.Begun)

variable {m m' : Machine ι V σ} {es : Trace ι V} {top : Frame ι V σ} {rest : List (Frame ι V σ)}

omit [DecidableEq ι] in
theorem Machine.Prompt.below (h : m.Prompt) (stack : m.stack = top :: rest) :
    ∀ frame ∈ rest, frame.Begun := by
  cases h with
  | begun begun =>
      rw [stack] at begun
      exact (List.forall_mem_cons.1 begun).2
  | fresh same _ begun =>
      rw [stack] at same
      cases same
      exact begun

omit [DecidableEq ι] in
/-- Until somebody has had a turn in a round, what it delivers is the present value. -/
theorem Machine.Prompt.present (h : m.Prompt) {i : ι} {x : V i}
    {pending : List (Subscriber ι V σ i)} (stack : m.stack = .round i x [] pending :: rest) :
    (m.cells i).map (·.value) = some x := by
  cases h with
  | begun begun =>
      rw [stack] at begun
      exact absurd rfl (List.forall_mem_cons.1 begun).1
  | fresh same present _ =>
      rw [stack] at same
      cases same
      exact present

theorem Move.prompt (move : Move m es m') (h : m.Prompt) : m'.Prompt := by
  -- A round is put on top of the stack, and nothing is put on top of it before its first turn.
  cases move with
  | idle => exact h
  | done | roundNowhere | finish => exact .begun (h.below rfl)
  | get | remember | note | storeNowhere | storeLater | subscribeNowhere | withdrawNowhere
  | withdraw | enrolNowhere | enrol =>
      exact .begun (List.forall_mem_cons.2 ⟨trivial, h.below rfl⟩)
  | subscribe =>
      refine .begun (List.forall_mem_cons.2 ⟨trivial, ?_⟩)
      exact List.forall_mem_cons.2 ⟨trivial, h.below rfl⟩
  | store =>
      exact .fresh rfl (by simp [Cell.beginRound])
        (List.forall_mem_cons.2 ⟨trivial, h.below rfl⟩)
  | again => exact .fresh rfl (by simp [Cell.beginRound, Cell.endRound]) (h.below rfl)
  | pass => exact .begun (List.forall_mem_cons.2 ⟨by simp [Frame.Begun], h.below rfl⟩)
  | call =>
      refine .begun (List.forall_mem_cons.2 ⟨trivial, ?_⟩)
      exact List.forall_mem_cons.2 ⟨by simp [Frame.Begun], h.below rfl⟩

theorem Run.prompt {allowed : Action ι V σ → Prop} {tr : Trace ι V} {links : List (Link ι V σ)}
    (run : Run allowed tr links m) : m.Prompt := by
  induction run with
  | empty | create | derive | drop => exact .begun (by simp [idle])
  | start => exact .begun (by simp [Network.start, Frame.Begun])
  | step run ih => exact (Machine.move _).prompt ih

/-- A round runs in a cell that is there. -/
theorem Machine.InPhase.here_of_round {i : ι} {p : Phase ι V σ i} (h : m.InPhase i p) {x : V i}
    {called pending : List (Subscriber ι V σ i)}
    (stack : m.stack = .round i x called pending :: rest) : ∃ cell, m.cells i = some cell := by
  cases p with
  | delivering => exact ⟨_, h.1⟩
  | due => cases h
  | _ =>
      have quiet : openRounds i m.stack = [] := h.2
      rw [stack, openRounds_same] at quiet
      cases quiet

/-- Whoever is in front of everybody is told the present value. -/
theorem Run.told_present {allowed : Action ι V σ → Prop} {tr : Trace ι V}
    {links : List (Link ι V σ)} (run : Run allowed tr links m) {i : ι} {x : V i}
    {called pending : List (Subscriber ι V σ i)} {s : Subscriber ι V σ i}
    (stack : m.stack = .round i x called (s :: pending) :: rest) (first : First s.id (tr.of i)) :
    (m.cells i).map (·.value) = some x := by
  rcases run.turns i with ⟨p, turns, phase⟩
  rcases phase.here_of_round stack with ⟨cell, here⟩
  rcases phase.delivering here stack with ⟨rfl, -, -⟩
  have ordered := (turns.ordered (by simp [Phase.Ordered, Phase.subscribers])).ids
  have above := (turns.from_first first).1
  simp only [Phase.subscribers, List.map_append] at ordered above
  have uncalled : called = [] := by
    rw [List.eq_nil_iff_forall_not_mem]
    intro t listed
    have earlier : t.id < s.id := (List.pairwise_append.1 (List.pairwise_append.1 ordered).1).2.2
      t.id (List.mem_map_of_mem listed) s.id (by simp)
    exact absurd (above t (by simp [listed])) (Nat.not_le_of_lt earlier)
  rw [uncalled] at stack
  exact run.prompt.present stack

end Prompt

/-! ## Callbacks of a link at work -/

section Works

variable {ι : Type} {V : ι → Type} {σ : Type}

/-- What is left of the action after the reads with which it begins. -/
def Action.read (cells : Cells ι V σ) : Action ι V σ → Action ι V σ
  | .get i next => (next ((cells i).map (·.value))).read cells
  | action => action

namespace Link

/-- What a callback of the link does after its reads: it computes from the present values of the
sources, it stores what has been computed from them, or it is through. -/
inductive Works (link : Link ι V σ) (cells : Cells ι V σ) : Action ι V σ → Prop
  | through : Works link cells .done
  | computes {x : V link.left} {y : V link.right} (left : (cells link.left).map (·.value) = some x)
      (right : (cells link.right).map (·.value) = some y) (alive : (cells link.target).isSome) :
      Works link cells (link.refresh x y)
  | stores {x : V link.left} {y : V link.right} (left : (cells link.left).map (·.value) = some x)
      (right : (cells link.right).map (·.value) = some y) (alive : (cells link.target).isSome) :
      Works link cells (.set link.target (link.compute x y) fun _ => .done)

/-- No callback of the link is running, or one is at work on top of the stack. -/
inductive Busy (link : Link ι V σ) (m : Machine ι V σ) (l r : Nat) : Prop
  | calm (spares : ∀ frame ∈ m.stack, frame.Spares link.target (link.Own l r))
  | working {action : Action ι V σ} {rest : List (Frame ι V σ)}
      (top : m.stack = .act action :: rest)
      (works : link.Works m.cells (action.read m.cells))
      (spares : ∀ frame ∈ rest, frame.Spares link.target (link.Own l r))

variable {link : Link ι V σ} {cells : Cells ι V σ}

theorem onLeft_works {x : V link.left} (left : (cells link.left).map (·.value) = some x) :
    link.Works cells ((link.onLeft x).read cells) := by
  rcases target : cells link.target with _ | cell
  · have reads : (link.onLeft x).read cells = .done := by simp [onLeft, Action.read, target]
    rw [reads]
    exact .through
  · rcases right : (cells link.right).map (·.value) with _ | y
    · have reads : (link.onLeft x).read cells = .done := by
        simp [onLeft, Action.read, target, right]
      rw [reads]
      exact .through
    · have reads : (link.onLeft x).read cells = link.refresh x y := by
        simp [onLeft, Action.read, target, right, refresh]
      rw [reads]
      exact .computes left right (by rw [target]; rfl)

theorem onRight_works {y : V link.right} (right : (cells link.right).map (·.value) = some y) :
    link.Works cells ((link.onRight y).read cells) := by
  rcases target : cells link.target with _ | cell
  · have reads : (link.onRight y).read cells = .done := by simp [onRight, Action.read, target]
    rw [reads]
    exact .through
  · rcases left : (cells link.left).map (·.value) with _ | x
    · have reads : (link.onRight y).read cells = .done := by
        simp [onRight, Action.read, target, left]
      rw [reads]
      exact .through
    · have reads : (link.onRight y).read cells = link.refresh x y := by
        simp [onRight, Action.read, target, left, refresh]
      rw [reads]
      exact .computes left right (by rw [target]; rfl)

end Link
end Works

section Steps

variable {ι : Type} [DecidableEq ι] {V : ι → Type} {σ : Type} {link : Link ι V σ} {l r : Nat}
  {m m' : Machine ι V σ} {es : Trace ι V}

/-- A callback of the link goes on with its work. -/
theorem Move.working {action : Action ι V σ} {rest : List (Frame ι V σ)} (move : Move m es m')
    (top : m.stack = .act action :: rest) (cells : m.cells.Tame link.target (link.Own l r))
    (works : link.Works m.cells (action.read m.cells))
    (spares : ∀ frame ∈ rest, frame.Spares link.target (link.Own l r)) :
    m'.cells.Tame link.target (link.Own l r) ∧ link.Busy m' l r := by
  cases action with
  | done =>
      cases move <;> cases top
      exact ⟨cells, .calm spares⟩
  | get i next =>
      cases move <;> cases top
      exact ⟨cells, .working rfl works spares⟩
  | note change next =>
      cases works with
      | computes left right alive =>
          cases move <;> cases top
          exact ⟨cells, .working rfl (.stores left right alive) spares⟩
  | set i value next =>
      cases works with
      | stores left right alive =>
          rcases move.refreshed top cells (fun _ => rfl) spares with ⟨tame, calm⟩
          exact ⟨tame, .calm calm⟩
  | _ => cases works

/-- The callbacks of the link are first in the lists of its sources, and everything else spares the
target. -/
structure Link.Leads (link : Link ι V σ) (tr : Trace ι V) (m : Machine ι V σ) (l r : Nat) :
    Prop where
  left : First l (tr.of link.left)
  right : First r (tr.of link.right)
  cells : m.cells.Tame link.target (link.Own l r)
  busy : link.Busy m l r

namespace Link.Leads

variable {allowed : Action ι V σ → Prop} {tr : Trace ι V} {links : List (Link ι V σ)}

/-- A callback of the link is told the present value of its source. -/
theorem told (h : link.Leads tr m l r) (run : Run allowed tr links m) {i : ι} {x : V i}
    {called pending : List (Subscriber ι V σ i)} {s s' : Subscriber ι V σ i}
    {rest : List (Frame ι V σ)} (stack : m.stack = .round i x called (s' :: pending) :: rest)
    (own : link.Own l r i s) (number : s'.id = s.id) : (m.cells i).map (·.value) = some x := by
  cases own with
  | left => exact run.told_present stack (by rw [number]; exact h.left)
  | right => exact run.told_present stack (by rw [number]; exact h.right)

theorem extend (h : link.Leads tr m l r) (es : Trace ι V)
    (cells : m'.cells.Tame link.target (link.Own l r)) (busy : link.Busy m' l r) :
    link.Leads (tr ++ es) m' l r where
  left := by rw [Trace.of_append]; exact h.left.append _
  right := by rw [Trace.of_append]; exact h.right.append _
  cells := cells
  busy := busy

theorem step (h : link.Leads tr m l r) (run : Run allowed tr links m) (move : Move m es m') :
    link.Leads (tr ++ es) m' l r := by
  rcases h.busy with spares | ⟨top, works, spares⟩
  · rcases move.calm h.cells spares with ⟨tame, calm | ⟨i, s, value, rest, own, told, top, below⟩⟩
    · exact h.extend es tame (.calm calm)
    · obtain ⟨s', before, after, rest', cell, number, -, stack, same, -⟩ :=
        move.call_of_called (Trace.mem_of.2 told)
      have present := h.told run stack own number
      refine h.extend es tame (.working top ?_ below)
      rw [same]
      cases own with
      | left => exact onLeft_works present
      | right => exact onRight_works present
  · rcases move.working top h.cells works spares with ⟨tame, busy⟩
    exact h.extend es tame busy

end Link.Leads
end Steps

/-! ## Runs -/

section Runs

variable {ι : Type} [DecidableEq ι] {V : ι → Type} {σ : Type}

/-- The events before the first one of a cell. -/
def Trace.before (tr : Trace ι V) (i : ι) : Trace ι V :=
  tr.takeWhile (·.1 ≠ i)

theorem Trace.before_append {tr : Trace ι V} {i : ι} (known : tr.of i ≠ []) (es : Trace ι V) :
    (tr ++ es).before i = tr.before i := by
  induction tr with
  | nil => exact absurd rfl known
  | cons e tr ih =>
      by_cases same : e.1 = i
      · simp [before, same]
      · have later : Trace.of tr i ≠ [] := by rwa [of_cons_other same] at known
        rw [List.cons_append, before, before, List.takeWhile_cons_of_pos (by simpa using same),
          List.takeWhile_cons_of_pos (by simpa using same)]
        exact congrArg (e :: ·) (ih later)

theorem Trace.before_fresh {tr : Trace ι V} {i : ι} (fresh : tr.of i = []) (e : Event (V i))
    (es : Trace ι V) : (tr ++ ⟨i, e⟩ :: es).before i = tr := by
  have other : ∀ f ∈ tr, f.1 ≠ i := by
    rintro ⟨j, f⟩ listed rfl
    have mem : f ∈ tr.of j := mem_of.2 listed
    rw [fresh] at mem
    cases mem
  rw [before, List.takeWhile_append_of_pos (by simpa using other)]
  simp

/-- When the target of the link was made, nobody was registered with its sources. -/
structure Link.Foremost (link : Link ι V σ) (tr : Trace ι V) : Prop where
  left : registered ((tr.before link.target).of link.left) = []
  right : registered ((tr.before link.target).of link.right) = []

theorem Link.Foremost.front {link : Link ι V σ} {tr es : Trace ι V}
    (h : link.Foremost (tr ++ es)) (known : tr.of link.target ≠ []) : link.Foremost tr := by
  rcases h with ⟨left, right⟩
  rw [Trace.before_append known] at left right
  exact ⟨left, right⟩

variable {link : Link ι V σ} {tr : Trace ι V} {links : List (Link ι V σ)} {m : Machine ι V σ}
  {net : Network ι V σ}

/-- A link that is made before anybody has registered with its sources leads. -/
theorem Run.leads_of_derive {x : V link.left} {y : V link.right}
    (run : Run (·.Spares link.target) tr links net.idle) (fresh : tr.of link.target = [])
    (left : net.value? link.left = some x) (right : net.value? link.right = some y)
    (two : link.left ≠ link.right)
    (foremost : link.Foremost (tr ++ net.deriveEvents link (link.compute x y))) :
    ∃ l r, link.Leads (tr ++ net.deriveEvents link (link.compute x y)) (net.derive link).idle
      l r := by
  obtain ⟨notLeft, notRight⟩ := run.sources_ne_target fresh left right
  obtain ⟨l, r, events, -, -, tame⟩ := derive_registers left right notLeft notRight
  rw [events] at foremost ⊢
  rcases foremost with ⟨aloneLeft, aloneRight⟩
  rw [Trace.before_fresh fresh] at aloneLeft aloneRight
  have firstLeft : First l (Trace.of (tr ++ [⟨link.target, .created (link.compute x y)⟩,
      ⟨link.left, .linked l⟩, ⟨link.right, .linked r⟩]) link.left) := by
    refine ⟨tr.of link.left, [], ?_, aloneLeft⟩
    simp [Trace.of_cons_other (Ne.symm notLeft), Trace.of_cons_other (Ne.symm two)]
  have firstRight : First r (Trace.of (tr ++ [⟨link.target, .created (link.compute x y)⟩,
      ⟨link.left, .linked l⟩, ⟨link.right, .linked r⟩]) link.right) := by
    refine ⟨tr.of link.right, [], ?_, aloneRight⟩
    simp [Trace.of_cons_other (Ne.symm notRight), Trace.of_cons_other two]
  exact ⟨l, r, firstLeft, firstRight, tame (run.tame_of_fresh fresh _) .left .right,
    .calm (by simp [idle])⟩

theorem Run.leads (run : Run (·.Spares link.target) tr links m) (made : link ∈ links)
    (two : link.left ≠ link.right) (foremost : link.Foremost tr) : ∃ l r, link.Leads tr m l r := by
  induction run with
  | empty => cases made
  | create run fresh value ih =>
      have known := run.known_of_made made _ link.hasTarget
      rcases ih made (foremost.front known) with ⟨l, r, leads⟩
      exact ⟨l, r, leads.extend _ (create_tame value leads.cells) (.calm (by simp [idle]))⟩
  | drop run here ih =>
      have known := run.known_of_made made _ link.hasTarget
      rcases ih made (foremost.front known) with ⟨l, r, leads⟩
      exact ⟨l, r, leads.extend _ (drop_tame _ leads.cells) (.calm (by simp [idle]))⟩
  | @derive tr links net link' x y run fresh left right ih =>
      rcases List.mem_cons.1 made with rfl | before
      · exact run.leads_of_derive fresh left right two foremost
      · have known := run.known_of_made before _ link.hasTarget
        rcases ih before (foremost.front known) with ⟨l, r, leads⟩
        -- The target of the new link is fresh, so its callbacks spare that of the old one.
        have apart : link'.target ≠ link.target := by
          intro same
          exact known (same ▸ fresh)
        have tame := derive_tame leads.cells left right
          (fun _ _ => .inr (Link.onLeft_spares apart))
          (fun _ _ => .inr (Link.onRight_spares apart))
        exact ⟨l, r, leads.extend _ tame (.calm (by simp [idle]))⟩
  | start run ok ih =>
      rcases ih made foremost with ⟨l, r, leads⟩
      exact ⟨l, r, leads.left, leads.right, leads.cells,
        .calm (by simpa [Network.start, Frame.Spares] using ok)⟩
  | step run ih =>
      have known := run.known_of_made made _ link.hasTarget
      rcases ih made (foremost.front known) with ⟨l, r, leads⟩
      exact ⟨l, r, leads.step run (Machine.move _)⟩

/-! ## The values of the target -/

/-- The sources held two values together from which the value is computed. -/
def Link.Joint (link : Link ι V σ) (tr : Trace ι V) (value : V link.target) : Prop :=
  ∃ x y, held (tr.of link.left) = some x ∧ held (tr.of link.right) = some y ∧
    value = link.compute x y

/-- They did so at some moment. -/
def Link.Real (link : Link ι V σ) (tr : Trace ι V) (value : V link.target) : Prop :=
  ∃ earlier, earlier <+: tr ∧ link.Joint earlier value

/-- Whatever the target gets to hold, the sources have just held together. -/
def Link.Honest (link : Link ι V σ) (tr : Trace ι V) : Prop :=
  ∀ before e after value, tr = before ++ ⟨link.target, e⟩ :: after →
    e.hold none = some value → link.Joint before value

namespace Link.Honest

variable {es : Trace ι V}

theorem append (h : link.Honest tr)
    (more : ∀ before e after value, es = before ++ ⟨link.target, e⟩ :: after →
      e.hold none = some value → link.Joint (tr ++ before) value) : link.Honest (tr ++ es) := by
  intro before e after value split holds
  rcases List.append_eq_append_iff.1 split with ⟨rest, rfl, tail⟩ | ⟨rest, rfl, tail⟩
  · exact more rest e after value tail holds
  · cases rest with
    | nil =>
        have late := more [] e after value tail.symm holds
        simpa using late
    | cons f rest =>
        rcases List.cons.inj tail with ⟨rfl, -⟩
        exact h before e rest value rfl holds

/-- Events that leave the value of the target alone. -/
theorem quiet (h : link.Honest tr)
    (quiet : ∀ f ∈ es, f.1 = link.target → ∀ value, f.2.hold none ≠ some value) :
    link.Honest (tr ++ es) := by
  refine h.append ?_
  rintro before e after value rfl holds
  exact absurd holds (quiet ⟨link.target, e⟩ (by simp) rfl value)

theorem of_fresh (fresh : tr.of link.target = []) : link.Honest tr := by
  rintro before e after value rfl -
  simp at fresh

theorem front (h : link.Honest (tr ++ es)) : link.Honest tr := by
  rintro before e after value rfl holds
  exact h before e (after ++ es) value (by simp) holds

theorem real (h : link.Honest tr) {e : Event (V link.target)} {value : V link.target}
    (happened : e ∈ tr.of link.target) (holds : e.hold none = some value) : link.Real tr value := by
  rcases List.append_of_mem (Trace.mem_of.1 happened) with ⟨before, after, split⟩
  exact ⟨before, ⟨_, split.symm⟩, h before e after value split holds⟩

end Link.Honest

/-- What a cell holds was put there. -/
theorem hold_of_held {α : Type} {es : List (Event α)} {old : Option α} {value : α}
    (holds : es.foldl Event.hold old = some value) :
    old = some value ∨ ∃ e ∈ es, e.hold none = some value := by
  induction es generalizing old with
  | nil => exact .inl holds
  | cons e es ih =>
      rcases ih holds with before | ⟨f, listed, put⟩
      · cases e with
        | created | stored => exact .inr ⟨_, List.mem_cons_self, before⟩
        | dropped => cases before
        | _ => exact .inl before
      · exact .inr ⟨f, by simp [listed], put⟩

/-- What a callback at work stores, the sources hold together. -/
theorem Link.Leads.joint {allowed : Action ι V σ → Prop} {l r : Nat} (h : link.Leads tr m l r)
    (run : Run allowed tr links m) {value : V link.target} {next : Bool → Action ι V σ}
    {rest : List (Frame ι V σ)} (stack : m.stack = .act (.set link.target value next) :: rest) :
    link.Joint tr value := by
  rcases h.busy with spares | ⟨top, works, -⟩
  · rw [stack] at spares
    exact absurd rfl (List.forall_mem_cons.1 spares).1.1
  · rw [stack] at top
    cases top
    cases works with
    | stores left right alive =>
        exact ⟨_, _, (run.held_eq _).trans left, (run.held_eq _).trans right, rfl⟩

/-- If a step stores a value, it does so first of all. -/
theorem Move.stored_first {m' : Machine ι V σ} {es front after : Trace ι V} (move : Move m es m')
    {i : ι} {e : Event (V i)} {value : V i} (split : es = front ++ ⟨i, e⟩ :: after)
    (holds : e.hold none = some value) : front = [] ∧ e = .stored value := by
  cases move with
  | storeLater =>
      rcases List.append_eq_singleton_iff.1 split.symm with ⟨rfl, same⟩ | ⟨-, none⟩
      · cases same
        cases holds
        exact ⟨rfl, rfl⟩
      · cases none
  | withdraw | enrol | pass | call | finish =>
      rcases List.append_eq_singleton_iff.1 split.symm with ⟨-, same⟩ | ⟨-, none⟩
      · cases same
        cases holds
      · cases none
  | store =>
      rcases List.append_eq_cons_iff.1 split.symm with ⟨rfl, same⟩ | ⟨front, -, tail⟩
      · cases same
        cases holds
        exact ⟨rfl, rfl⟩
      · rcases List.append_eq_singleton_iff.1 tail.symm with ⟨-, same⟩ | ⟨-, none⟩
        · cases same
          cases holds
        · cases none
  | again =>
      rcases List.append_eq_cons_iff.1 split.symm with ⟨-, same⟩ | ⟨front, -, tail⟩
      · cases same
        cases holds
      · rcases List.append_eq_singleton_iff.1 tail.symm with ⟨-, same⟩ | ⟨-, none⟩
        · cases same
          cases holds
        · cases none
  | _ => simp at split

/-- The value with which the target is made is computed from those of the sources. -/
theorem Run.honest_of_derive {allowed : Action ι V σ → Prop} {x : V link.left} {y : V link.right}
    (run : Run allowed tr links net.idle) (fresh : tr.of link.target = [])
    (left : net.value? link.left = some x) (right : net.value? link.right = some y) :
    link.Honest (tr ++ net.deriveEvents link (link.compute x y)) := by
  obtain ⟨notLeft, notRight⟩ := run.sources_ne_target fresh left right
  obtain ⟨l, r, events, -⟩ := derive_registers left right notLeft notRight
  have made : link.Honest (tr ++ [⟨link.target, .created (link.compute x y)⟩]) := by
    refine (Link.Honest.of_fresh fresh).append ?_
    intro front e after value split put
    rcases List.append_eq_singleton_iff.1 split.symm with ⟨rfl, same⟩ | ⟨-, none⟩
    · cases same
      cases put
      rw [List.append_nil]
      exact ⟨x, y, (run.held_eq _).trans left, (run.held_eq _).trans right, rfl⟩
    · cases none
  rw [events, List.append_cons]
  refine made.quiet ?_
  simp [Event.hold]

theorem Run.honest (run : Run (·.Spares link.target) tr links m) (made : link ∈ links)
    (two : link.left ≠ link.right) (foremost : link.Foremost tr) : link.Honest tr := by
  -- The target gets its values from the link alone: when it is made, and from the callbacks.
  induction run with
  | empty => cases made
  | @create tr links net j run fresh value ih =>
      have known := run.known_of_made made _ link.hasTarget
      have apart : j ≠ link.target := by
        rintro rfl
        exact known fresh
      exact (ih made (foremost.front known)).quiet (by simp [apart])
  | drop run here ih =>
      have known := run.known_of_made made _ link.hasTarget
      exact (ih made (foremost.front known)).quiet (by simp [Event.hold])
  | @derive tr links net link' x y run fresh left right ih =>
      rcases List.mem_cons.1 made with rfl | before
      · exact run.honest_of_derive fresh left right
      · have known := run.known_of_made before _ link.hasTarget
        have apart : link'.target ≠ link.target := by
          intro same
          exact known (same ▸ fresh)
        obtain ⟨notLeft, notRight⟩ := run.sources_ne_target fresh left right
        obtain ⟨l, r, events, -⟩ := derive_registers left right notLeft notRight
        rw [events]
        exact (ih before (foremost.front known)).quiet (by simp [apart, Event.hold])
  | start run ok ih => exact ih made foremost
  | @step tr links m run ih =>
      have before := foremost.front (run.known_of_made made _ link.hasTarget)
      rcases run.leads made two before with ⟨l, r, leads⟩
      refine (ih made before).append ?_
      intro front e after value split holds
      rcases m.move.stored_first split holds with ⟨rfl, rfl⟩
      have stored : .stored value ∈ m.events.of link.target := by
        rw [Trace.mem_of, split]
        simp
      rcases m.move.store_of_stored stored with ⟨next, rest, stack⟩
      rw [List.append_nil]
      exact leads.joint run stack

/-! ## One moment -/

theorem Move.value_of_set {m' : Machine ι V σ} {es : Trace ι V} (move : Move m es m') {i : ι}
    {value : V i} {next : Bool → Action ι V σ} {rest : List (Frame ι V σ)}
    (stack : m.stack = .act (.set i value next) :: rest) (alive : (m.cells i).isSome) :
    (m'.cells i).map (·.value) = some value := by
  cases move with
  | storeNowhere gone =>
      cases stack
      simp [gone] at alive
  | storeLater | store =>
      cases stack
      simp [Cell.beginRound]
  | _ => cases stack

/-- The link mixes no moments. -/
structure Link.Unmixed (link : Link ι V σ) (tr : Trace ι V) (m : Machine ι V σ) : Prop where
  /-- A callback that may store in the target is told the present value of its source. -/
  told : ∀ {i x called s pending rest}, m.stack = .round i x called (s :: pending) :: rest →
    (¬ ∀ value, (s.callback value).Spares link.target) → (m.cells i).map (·.value) = some x
  /-- The link computes from the present values of its sources, as far as what it notes and stores
  can tell, and the target has the result at once. -/
  computes : ∀ {x y rest}, m.stack = .act (link.refresh x y) :: rest → ∃ x' y',
    (m.cells link.left).map (·.value) = some x' ∧ (m.cells link.right).map (·.value) = some y' ∧
      link.refresh x y = link.refresh x' y' ∧
        (m.step.step.cells link.target).map (·.value) = some (link.compute x' y')
  /-- Each value with which the target was made, or that was stored in it since, is computed from
  what the sources held at that moment. -/
  stored : ∀ {before e after value}, tr = before ++ ⟨link.target, e⟩ :: after →
    e.hold none = some value → link.Joint before value
  /-- Each value that a subscriber of the target was told had been so computed. -/
  delivered : ∀ {before id value after}, tr = before ++ ⟨link.target, .called id value⟩ :: after →
    link.Real before value
  /-- So is the value that the target holds, which is what somebody who subscribes is told. -/
  present : ∀ {value}, (m.cells link.target).map (·.value) = some value → link.Real tr value

theorem Link.Leads.told_by {allowed : Action ι V σ → Prop} {l r : Nat} (h : link.Leads tr m l r)
    (run : Run allowed tr links m) {i : ι} {x : V i} {called pending : List (Subscriber ι V σ i)}
    {s : Subscriber ι V σ i} {rest : List (Frame ι V σ)}
    (stack : m.stack = .round i x called (s :: pending) :: rest)
    (stores : ¬ ∀ value, (s.callback value).Spares link.target) :
    (m.cells i).map (·.value) = some x := by
  rcases h.busy with spares | ⟨top, -, -⟩
  · rw [stack] at spares
    rcases (List.forall_mem_cons.1 spares).1.2 s List.mem_cons_self with own | quiet
    · exact h.told run stack own rfl
    · exact absurd quiet stores
  · rw [stack] at top
    cases top

theorem Link.Leads.computes {l r : Nat} (h : link.Leads tr m l r) {x : V link.left}
    {y : V link.right} {rest : List (Frame ι V σ)}
    (stack : m.stack = .act (link.refresh x y) :: rest) :
    ∃ x' y', (m.cells link.left).map (·.value) = some x' ∧
      (m.cells link.right).map (·.value) = some y' ∧ link.refresh x y = link.refresh x' y' ∧
        (m.step.step.cells link.target).map (·.value) = some (link.compute x' y') := by
  rcases h.busy with spares | ⟨top, works, -⟩
  · rw [stack] at spares
    exact absurd rfl (List.forall_mem_cons.1 spares).1.1
  · rw [stack] at top
    cases top
    have work : link.Works m.cells (link.refresh x y) := works
    generalize same : link.refresh x y = action at work stack
    cases work with
    | through => cases same
    | stores => cases same
    | @computes x' y' left right alive =>
        -- The computation is noted, and its result is stored in the next step.
        refine ⟨x', y', left, right, rfl, ?_⟩
        rcases m with ⟨cells, memory, frames⟩
        cases stack
        exact (Machine.move _).value_of_set rfl alive

/-- If nobody had registered with the sources of a link when its target was made, and the sources
are two different cells, no value of the target ever mixes two moments, whatever the callbacks of
all three cells do in the meantime.  The program stores nothing in the target itself. -/
theorem derived_unmixed (run : Run (·.Spares link.target) tr links m) (made : link ∈ links)
    (two : link.left ≠ link.right) (foremost : link.Foremost tr) : link.Unmixed tr m := by
  rcases run.leads made two foremost with ⟨l, r, leads⟩
  have honest : link.Honest tr := run.honest made two foremost
  rcases run.turns link.target with ⟨p, turns, -⟩
  refine ⟨leads.told_by run, leads.computes, ?stored, ?delivered, ?present⟩
  case stored =>
    intro before e after value
    exact honest before e after value
  case delivered =>
    rintro before id value after rfl
    -- A round delivers what the target held when it began.
    rw [Trace.of_append, Trace.of_cons_same] at turns
    rcases turns.call_within with ⟨front, body, events, -⟩
    rw [events, List.append_assoc] at turns
    rcases turns.begun with ⟨-, -, -, holds, -⟩
    rcases hold_of_held holds with none | ⟨e, listed, put⟩
    · cases none
    · have happened : e ∈ before.of link.target := by simp [events, listed]
      exact honest.front.real happened put
  case present =>
    intro value here
    have holds : held (tr.of link.target) = some value := (run.held_eq _).trans here
    rcases hold_of_held holds with none | ⟨e, listed, put⟩
    · cases none
    · exact honest.real listed put

end Runs

/-- Empties the second summand when the sum has come to six. -/
def tip (value : Nat) : Action (Fin 3) (fun _ => Nat) Unit :=
  if value = 6 then .set adder.right 0 fun _ => .done else .done

/-- Climbs while somebody who watches the sum stores in a summand. -/
def ladder : Action (Fin 3) (fun _ => Nat) Unit :=
  .subscribe adder.target tip fun _ => ascent

theorem ladder_spares : ladder.Spares adder.target := by
  refine ⟨?_, fun _ => ascent_spares⟩
  intro value
  unfold tip
  split
  · exact ⟨by decide, fun _ => trivial⟩
  · trivial

theorem derived_unmixed_ladder :
    let tr := sumEvents ++ (sum.start ladder).trace 80
    adder.left ≠ adder.right ∧ adder.Foremost tr ∧
      deliveries 0 (tr.of 2) = [6, 1, 2, 3, 4, 5] ∧
      adder.Unmixed tr ((sum.start ladder).run 80) := by
  intro tr
  have run := (sum_run.start ladder_spares).steps 80
  have two : adder.left ≠ adder.right := by decide
  have foremost : adder.Foremost tr := ⟨by decide, by decide⟩
  exact ⟨two, foremost, by decide, derived_unmixed run (by simp) two foremost⟩

/-! ## One cell as both sources -/

/-- A link with one cell as both of its sources. -/
def pair : Link (Fin 2) (fun _ => Nat) Unit where
  left := 0
  right := 0
  target := 1
  compute := fun x y => 100 * x + y
  trace := fun _ _ _ memory => memory

/-- One cell, and what is paired from it. -/
def paired : Network (Fin 2) (fun _ => Nat) Unit :=
  (create ⟨fun _ => none, ()⟩ pair.left 0).derive pair

/-- Stores a two in the source as soon as its one has reached the target. -/
def hasten : Action (Fin 2) (fun _ => Nat) Unit :=
  .subscribe pair.target
    (fun value => if value = 101 then .set pair.left 2 fun _ => .done else .done)
    fun _ => .set pair.left 1 fun _ => .done

def pairedEvents : Trace (Fin 2) (fun _ => Nat) :=
  [⟨pair.left, .created 0⟩] ++
    (create ⟨fun _ => none, ()⟩ pair.left 0 : Network (Fin 2) (fun _ => Nat) Unit).deriveEvents
      pair 0

theorem paired_run : Run (·.Spares pair.target) pairedEvents [pair] paired.idle := by
  have first : Run (·.Spares pair.target) [⟨pair.left, .created 0⟩] []
      (create (V := fun _ => Nat) ⟨fun _ => none, ()⟩ pair.left 0).idle :=
    Run.create (.empty ()) rfl 0
  have held : (create (V := fun _ => Nat) ⟨fun _ => none, ()⟩ pair.left 0).value? pair.left =
      some 0 := rfl
  exact first.derive rfl held held

theorem hasten_spares : hasten.Spares pair.target := by
  refine ⟨?_, fun _ => ⟨by decide, fun _ => trivial⟩⟩
  intro value
  dsimp only
  split
  · exact ⟨by decide, fun _ => trivial⟩
  · trivial

/-- What a cell holds together with itself is one value twice. -/
theorem pair_joint {tr : Trace (Fin 2) (fun _ => Nat)} {value : Nat}
    (joint : pair.Joint tr value) : ∃ x, value = 101 * x := by
  rcases joint with ⟨x, y, left, right, rfl⟩
  have same : x = y := Option.some.inj (left.symm.trans right)
  exact ⟨x, by subst same; show 100 * x + x = 101 * x; omega⟩

/-- A link from one cell may mix two of its moments.  The callback that is second in the list of
the cell is told an old value if the one in front has led to a new one: in the 201 that is stored
here the two belongs to one moment, and the one to another. -/
theorem derived_mixed :
    ¬ ∀ (link : Link (Fin 2) (fun _ => Nat) Unit) (tr : Trace (Fin 2) (fun _ => Nat))
      (links : List (Link (Fin 2) (fun _ => Nat) Unit)) (m : Machine (Fin 2) (fun _ => Nat) Unit),
      Run (·.Spares link.target) tr links m → link ∈ links → link.Foremost tr →
        link.Unmixed tr m := by
  intro always
  have run := (paired_run.start hasten_spares).steps 40
  have foremost : pair.Foremost (pairedEvents ++ (paired.start hasten).trace 40) :=
    ⟨by decide, by decide⟩
  have unmixed := always pair _ _ _ run (by simp) foremost
  have stored : .stored 201 ∈
      (pairedEvents ++ (paired.start hasten).trace 40).of pair.target := by
    decide
  rcases List.append_of_mem (Trace.mem_of.1 stored) with ⟨before, after, split⟩
  -- The two halves of 201 differ, so no moment has both of them.
  rcases pair_joint (unmixed.stored split rfl) with ⟨x, same⟩
  omega

end Network
end FormSnippet
