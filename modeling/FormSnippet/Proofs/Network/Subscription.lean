import FormSnippet.Proofs.Network.Course
import FormSnippet.Proofs.Network.Delivery
import FormSnippet.Proofs.Network.Discipline

/-!
# Subscription — what a new subscriber gets to know

A callback that subscribes is called once before it is registered.  Values that are stored during
this first call are told to everybody else, so the newcomer knows the value that the cell is left
with only if it is the one that it has been called with.  From then on the newcomer is told whatever
the others are, and the next value that is stored brings it up to date.

- `Machine.run_split`           : frames at the top of a stack run as if there were none below
- `subscribe_performs`          : subscribing is the first call followed by the registration
- `Operations`                  : operations one after the other
- `subscriber_current_iff`      : when the newcomer knows the present value
- `subscriber_behind`           : it need not know it when the subscription is made
-/

namespace FormSnippet
namespace Network

variable {ι : Type} [DecidableEq ι] {V : ι → Type} {σ : Type}

/-! ## Frames below -/

/-- A move works on the top of the stack and leaves the frames below alone, whatever they are. -/
theorem Move.replace_below {cells : Cells ι V σ} {memory : σ} {top : Frame ι V σ}
    {rest : List (Frame ι V σ)} {es : Trace ι V} {m' : Machine ι V σ}
    (move : Move ⟨cells, memory, top :: rest⟩ es m') :
    ∃ cells' memory' front, m' = ⟨cells', memory', front ++ rest⟩ ∧
      ∀ rest', Move ⟨cells, memory, top :: rest'⟩ es ⟨cells', memory', front ++ rest'⟩ := by
  cases move with
  | done => exact ⟨_, _, [], rfl, fun _ => .done⟩
  | get => exact ⟨_, _, [_], rfl, fun _ => .get⟩
  | remember => exact ⟨_, _, [_], rfl, fun _ => .remember⟩
  | note => exact ⟨_, _, [_], rfl, fun _ => .note⟩
  | storeNowhere gone => exact ⟨_, _, [_], rfl, fun _ => .storeNowhere gone⟩
  | storeLater here busy => exact ⟨_, _, [_], rfl, fun _ => .storeLater here busy⟩
  | store here free => exact ⟨_, _, [_, _], rfl, fun _ => .store here free⟩
  | subscribeNowhere gone => exact ⟨_, _, [_], rfl, fun _ => .subscribeNowhere gone⟩
  | subscribe here => exact ⟨_, _, [_, _], rfl, fun _ => .subscribe here⟩
  | withdrawNowhere gone => exact ⟨_, _, [_], rfl, fun _ => .withdrawNowhere gone⟩
  | withdraw here => exact ⟨_, _, [_], rfl, fun _ => .withdraw here⟩
  | enrolNowhere gone => exact ⟨_, _, [_], rfl, fun _ => .enrolNowhere gone⟩
  | enrol here => exact ⟨_, _, [_], rfl, fun _ => .enrol here⟩
  | roundNowhere gone => exact ⟨_, _, [], rfl, fun _ => .roundNowhere gone⟩
  | pass here absent => exact ⟨_, _, [_], rfl, fun _ => .pass here absent⟩
  | call here present => exact ⟨_, _, [_, _], rfl, fun _ => .call here present⟩
  | again called here dirty => exact ⟨_, _, [_], rfl, fun _ => .again called here dirty⟩
  | finish called here clean => exact ⟨_, _, [], rfl, fun _ => .finish called here clean⟩

namespace Machine

/-- A run to the end first empties the frames at the top, as if there were none below them, and then
those below. -/
theorem run_split {limit : Nat} {cells : Cells ι V σ} {memory : σ}
    {frames below : List (Frame ι V σ)}
    (ends : (run limit ⟨cells, memory, frames ++ below⟩).stack = []) :
    ∃ n k cells' memory',
      run n ⟨cells, memory, frames⟩ = ⟨cells', memory', []⟩ ∧
      run limit ⟨cells, memory, frames ++ below⟩ = run k ⟨cells', memory', below⟩ ∧
      trace limit ⟨cells, memory, frames ++ below⟩ =
        trace n ⟨cells, memory, frames⟩ ++ trace k ⟨cells', memory', below⟩ := by
  induction limit generalizing cells memory frames with
  | zero =>
      have empty : frames = [] ∧ below = [] := by simpa [run] using ends
      rcases empty with ⟨rfl, rfl⟩
      exact ⟨0, 0, cells, memory, rfl, rfl, rfl⟩
  | succ limit ih =>
      cases frames with
      | nil => exact ⟨0, limit + 1, cells, memory, rfl, rfl, rfl⟩
      | cons top rest =>
          -- The first step is the same with and without the frames below.
          obtain ⟨cells₁, memory₁, front, -, moves⟩ :=
            (move ⟨cells, memory, top :: rest⟩).replace_below
          have alone := (moves rest).eq.2
          rcases (moves (rest ++ below)).eq with ⟨told, next⟩
          rw [← List.append_assoc] at next
          rw [List.cons_append, run_succ (List.cons_ne_nil _ _), next] at ends
          rcases ih ends with ⟨n, k, cells', memory', first, second, events⟩
          refine ⟨n + 1, k, cells', memory', ?_, ?_, ?_⟩
          · rw [run_succ (List.cons_ne_nil _ _), alone, first]
          · rw [List.cons_append, run_succ (List.cons_ne_nil _ _), next, second]
          · rw [List.cons_append, trace, trace, told, next, alone, events, List.append_assoc]

end Machine

/-- What an action comes to does not depend on the limit. -/
theorem perform?_unique {net net' net'' : Network ι V σ} {action : Action ι V σ} {n k : Nat}
    (ends : net.perform? n action = some net') (ends' : net.perform? k action = some net'') :
    net' = net'' := by
  have first := run_of_perform ends
  have second := run_of_perform ends'
  have more := (Machine.run_add (congrArg Machine.stack first) k).1
  have more' := (Machine.run_add (congrArg Machine.stack second) n).1
  rw [Nat.add_comm] at more'
  exact idle_injective (first.symm.trans (more.symm.trans (more'.trans second)))

/-! ## Subscribing -/

section Subscribing

variable {net net' : Network ι V σ} {i : ι} {cell : Cell ι V σ i}
  {callback : V i → Action ι V σ} {limit : Nat}

/-- Subscribing is the first call, performed to its end, and after it the registration. -/
theorem subscribe_performs (here : net.cells i = some cell)
    (ends : net.perform? limit (.subscribe i callback fun _ => .done) = some net') :
    ∃ n mid last, net.perform? n (callback cell.value) = some mid ∧ mid.cells i = some last ∧
      net' = mid.observe i callback ∧
      (net.start (.subscribe i callback fun _ => .done)).trace limit =
        (net.start (callback cell.value)).trace n ++ [⟨i, .enrolled last.nextId⟩] := by
  have whole := run_of_perform ends
  cases limit with
  | zero => cases congrArg Machine.stack whole
  | succ limit =>
      -- The first call runs above the registration that waits for it.
      have first : Move (net.start (.subscribe i callback fun _ => .done)) []
          ⟨net.cells, net.memory, [.act (callback cell.value)] ++
            [.enrol i callback fun _ => .done]⟩ := .subscribe here
      rcases first.eq with ⟨silent, next⟩
      rw [Machine.run_succ (List.cons_ne_nil _ _), next] at whole
      obtain ⟨n, k, cells, memory, called, rest, events⟩ :=
        Machine.run_split (congrArg Machine.stack whole)
      have performed : net.perform? n (callback cell.value) = some ⟨cells, memory⟩ := by
        rw [perform?, start, called]
        rfl
      have kept := Machine.isSome_run (net.start (callback cell.value)) n i
      rw [start, called] at kept
      obtain ⟨last, there⟩ := Option.isSome_iff_exists.1 (kept.trans (by simp [here]))
      -- Two moves are left, and the run makes both, since it ends.
      have course : Course 2 ⟨cells, memory, [.enrol i callback fun _ => .done]⟩
          [⟨i, .enrolled last.nextId⟩] (observe ⟨cells, memory⟩ i callback).idle := by
        refine .event (.enrol there) (.silent .done ?_)
        simpa [observe, idle, show cells i = some last from there] using Course.refl _
      rw [rest] at whole
      have idle : (Machine.run k ⟨cells, memory, [.enrol i callback fun _ => .done]⟩).stack = [] :=
        congrArg Machine.stack whole
      rcases Machine.run_add idle 2 with ⟨ends', events'⟩
      rcases course.run_eq rfl (Nat.le_add_left 2 k) with ⟨enrolled, told⟩
      refine ⟨n, ⟨cells, memory⟩, last, performed, there, ?_, ?_⟩
      · rw [← ends', enrolled] at whole
        exact (idle_injective whole).symm
      · rw [Machine.trace, silent, next, events, ← events', told]
        rfl

end Subscribing

/-! ## Operations -/

/-- Operations that are performed one after the other, with their events. -/
inductive Operations : Network ι V σ → Trace ι V → Network ι V σ → Prop
  | none (net : Network ι V σ) : Operations net [] net
  | more {net net' net'' : Network ι V σ} {action : Action ι V σ} {limit : Nat} {tr : Trace ι V}
      (ends : net.perform? limit action = some net') (rest : Operations net' tr net'') :
      Operations net ((net.start action).trace limit ++ tr) net''

section Phases

variable {net net' : Network ι V σ} {i : ι} {p : Phase ι V σ i}

theorem perform_turns {action : Action ι V σ} {limit : Nat} (h : net.idle.InPhase i p)
    (ends : net.perform? limit action = some net') :
    ∃ q, Turns p (((net.start action).trace limit).of i) q ∧ net'.idle.InPhase i q := by
  obtain ⟨q, turns, after⟩ := Machine.turns_run (m := net.start action) (h.congr rfl rfl) limit
  rw [run_of_perform ends] at after
  exact ⟨q, turns, after⟩

theorem Operations.turns {tr : Trace ι V} (ops : Operations net tr net')
    (h : net.idle.InPhase i p) : ∃ q, Turns p (tr.of i) q ∧ net'.idle.InPhase i q := by
  induction ops generalizing p with
  | none => exact ⟨p, .refl p, h⟩
  | more ends _ ih =>
      obtain ⟨q, first, now⟩ := perform_turns h ends
      obtain ⟨r, later, last⟩ := ih now
      exact ⟨r, by rw [Trace.of_append]; exact first.trans later, last⟩

theorem Operations.isSome_eq {tr : Trace ι V} (ops : Operations net tr net') (i : ι) :
    (net'.cells i).isSome = (net.cells i).isSome := by
  induction ops with
  | none => rfl
  | @more net net' _ action limit _ ends _ ih =>
      have kept := Machine.isSome_run (net.start action) limit i
      rw [run_of_perform ends] at kept
      exact ih.trans kept

end Phases

/-! ## The newcomer -/

section Newcomer

variable {i : ι} {q : Phase ι V σ i} {pre post : List (Event (V i))} {e : Event (V i)} {id : Nat}

omit [DecidableEq ι] in
/-- Nobody is called under a number that has not been issued yet. -/
theorem Turns.uncalled (whole : Turns .unborn (pre ++ e :: post) q) (issue : e.issue? = some id) :
    deliveries id pre = [] := by
  refine List.filterMap_eq_nil_iff.2 ?_
  intro f mem
  cases told : f.delivery? id with
  | none => rfl
  | some value =>
      obtain rfl : f = .called id value := by
        cases f <;> simp_all [Event.delivery?]
      rcases List.append_of_mem mem with ⟨front, back, rfl⟩
      have cut : Turns .unborn (front ++ .called id value :: (back ++ e :: post)) q := by
        simpa using whole
      rcases cut.split with ⟨p, before, after⟩
      rcases after.head with ⟨_, turn, -⟩
      -- A callback is called while it is registered, so its number has been issued.
      have alive : id ∈ registered front := by
        have same : registered front = p.kept.map (·.id) := before.registered_eq.symm
        rw [same]
        exact turn.called_registered
      rcases issued_of_registered alive with none | early
      · cases none
      · exact absurd (List.mem_filterMap.2 ⟨e, by simp, issue⟩) (cut.issued_once early)

omit [DecidableEq ι] in
/-- Where nothing is stored the value stays. -/
theorem Turns.value_of_quiet {p : Phase ι V σ i} {es : List (Event (V i))} {x y : V i}
    (turns : Turns p es q) (quiet : ∀ value, .stored value ∉ es) (before : p.value? = some x)
    (after : q.value? = some y) : y = x := by
  induction turns with
  | refl => exact Option.some.inj (after.symm.trans before)
  | cons turn rest ih =>
      simp only [List.mem_cons, not_or] at quiet
      cases turn with
      | create => cases before
      | drop =>
          rw [rest.of_gone.2] at after
          cases after
      | store old value => exact absurd rfl (quiet value).1
      | storeLater r old value => exact absurd rfl (quiet value).1
      | _ => exact ih (fun value => (quiet value).2) before after

omit [DecidableEq ι] in
/-- Between two moments of rest, whoever is registered and stays hears of every change: the last of
what it has been told, or the value at the beginning if it has been told nothing, is the value at
the end. -/
theorem Turns.told_last {value x : V i} {subs subs' : List (Subscriber ι V σ i)} {n n' : Nat}
    {es : List (Event (V i))} (turns : Turns (.resting value subs n) es (.resting x subs' n'))
    (ordered : (Phase.resting value subs n).Ordered) (there : id ∈ subs.map (·.id))
    (stays : .withdrawn id ∉ es) :
    (deliveries id es ≠ [] ↔ ∃ v, .stored v ∈ es) ∧
      (value :: deliveries id es).getLast? = some x := by
  have unserved : (Phase.resting value subs n).Served id [] := ⟨there, rfl⟩
  have served := turns.served ordered unserved stays
  have same : deliveries id es = rounds es := served.2
  have untold : (Phase.resting value subs n).Told [] := ⟨by simp [rounds], by simp [rounds]⟩
  rcases turns.told trivial untold with ⟨stored, current⟩
  rw [List.nil_append] at stored current
  rw [same]
  refine ⟨stored, ?_⟩
  rcases none : rounds es with _ | ⟨first, rest⟩
  · have quiet : ∀ v, .stored v ∉ es := fun v mem => stored.2 ⟨v, mem⟩ none
    rw [turns.value_of_quiet quiet rfl rfl]
    rfl
  · obtain ⟨last, ends⟩ := Option.isSome_iff_exists.1
      (List.getLast?_isSome.2 (List.cons_ne_nil first rest))
    rw [List.getLast?_cons_cons, ends, current last (none ▸ ends)]

end Newcomer

/-- The values that a callback has been called with: first when it subscribed, and then under its
number. -/
def heard {α : Type} (first : α) (id : Nat) (es : List (Event α)) : List α :=
  first :: deliveries id es

section Current

variable {allowed : Action ι V σ → Prop} {tr : Trace ι V} {links : List (Link ι V σ)}
  {net net₁ : Network ι V σ} {i : ι} {cell : Cell ι V σ i} {callback : V i → Action ι V σ}
  {limit : Nat}

/-- After a subscription, and after any operations that follow it, the newcomer has been called with
the present value of the cell last of all if and only if its first call had left the value alone, or
a value has been stored since.  The number under which it is called is the one that the subscription
hands out when it is done. -/
theorem subscriber_current_iff (run : Run allowed tr links net.idle)
    (here : net.cells i = some cell)
    (ends : net.perform? limit (.subscribe i callback fun _ => .done) = some net₁) :
    let es := ((net.start (.subscribe i callback fun _ => .done)).trace limit).of i
    ∃ n mid id cell₁, net.perform? n (callback cell.value) = some mid ∧
      es.getLast? = some (.enrolled id) ∧
      net₁.cells i = some cell₁ ∧ ⟨id, callback⟩ ∈ cell₁.subscribers ∧
      ∀ later net₂, Operations net₁ later net₂ → .withdrawn id ∉ later.of i →
        (net₂.value? i = (heard cell.value id (es ++ later.of i)).getLast? ↔
          mid.value? i = some cell.value ∨ ∃ value, .stored value ∈ later.of i) := by
  intro es
  rcases run.turns i with ⟨p, before, now⟩
  obtain ⟨n, mid, last, called, there, rfl, events⟩ := subscribe_performs here ends
  obtain ⟨q, first, after⟩ := perform_turns now called
  rcases after.rests rfl there with rfl
  have enrolled := Turn.enrol last.value last.subscribers last.nextId callback
  have whole := (before.trans first).trans (.one enrolled)
  have split : es = ((net.start (callback cell.value)).trace n).of i ++
      [.enrolled last.nextId] := by
    simp [es, events]
  -- The number is new, so nobody has been called under it during the first call.
  have uncalled : deliveries last.nextId es = [] := by
    have numbered : (Event.enrolled last.nextId : Event (V i)).issue? = some last.nextId := rfl
    have silent := whole.uncalled numbered
    rw [deliveries_append] at silent
    rw [split, deliveries_append, (List.append_eq_nil_iff.1 silent).2]
    rfl
  have joined : (mid.observe i callback).idle.InPhase i
      (.resting last.value (last.subscribers ++ [⟨last.nextId, callback⟩]) (last.nextId + 1)) := by
    have rests := after.1
    simp [Machine.InPhase, idle, observe, Cell.observe, show mid.cells i = _ from rests]
  refine ⟨n, mid, last.nextId, last.observe callback, called, by simp [split],
    (observe_here callback there).1, List.mem_append_right _ (List.mem_singleton_self _), ?_⟩
  intro later net₂ ops stays
  obtain ⟨r, during, final⟩ := ops.turns joined
  have alive : (net₂.cells i).isSome := by
    rw [ops.isSome_eq i, (observe_here callback there).1]
    rfl
  rcases Option.isSome_iff_exists.1 alive with ⟨cell₂, here₂⟩
  rcases final.rests rfl here₂ with rfl
  have ordered := whole.ordered (by simp [Phase.Ordered, Phase.subscribers])
  rcases during.told_last ordered (by simp) stays with ⟨stored, current⟩
  have holds : net₂.value? i = some cell₂.value := by simp [value?, here₂]
  have held : mid.value? i = some last.value := by simp [value?, there]
  rw [heard, deliveries_append, uncalled, List.nil_append, holds, held, ← stored]
  -- What the first call has left counts only as long as nothing has been delivered.
  generalize deliveries last.nextId (later.of i) = told at current ⊢
  cases told with
  | nil =>
      have kept : last.value = cell₂.value := Option.some.inj current
      simp [kept]
  | cons value values =>
      rw [List.getLast?_cons_cons] at current ⊢
      simp [current]

end Current

/-! ## A callback that stores a value at once -/

/-- Stores a one when it is called with zero. -/
def eager (value : Nat) : Action Unit (fun _ => Nat) Unit :=
  if value = 0 then .set () 1 fun _ => .done else .done

/-- One cell that nobody has subscribed to. -/
def lone : Network Unit (fun _ => Nat) Unit :=
  create ⟨fun _ => none, ()⟩ () 0

theorem lone_run : Run (fun _ => True) [⟨(), .created 0⟩] [] lone.idle :=
  .create (.empty ()) rfl 0

def eagerEvents : List (Event Nat) :=
  ((lone.start (.subscribe () eager fun _ => .done)).trace 20).of ()

/-- The next value that is stored brings it up to date. -/
theorem subscriber_current_iff_eager :
    ∃ net₁ net₂ id, lone.perform? 20 (.subscribe () eager fun _ => .done) = some net₁ ∧
      net₁.perform? 20 (.set () 2 fun _ => .done) = some net₂ ∧
      eagerEvents.getLast? = some (.enrolled id) ∧
      net₁.value? () ≠ (heard 0 id eagerEvents).getLast? ∧
      net₂.value? () = (heard 0 id (eagerEvents ++
        ((net₁.start (.set () 2 fun _ => .done)).trace 20).of ())).getLast? := by
  have here : lone.cells () = some (.new 0) := rfl
  obtain ⟨net₁, ends⟩ := Option.isSome_iff_exists.1
    (rfl : (lone.perform? 20 (.subscribe () eager fun _ => .done)).isSome = true)
  obtain ⟨net₂, later⟩ := Option.isSome_iff_exists.1 (show
    (net₁.perform? 20 (.set () 2 fun _ => .done)).isSome = true by cases ends; rfl)
  obtain ⟨n, mid, id, cell₁, called, handed, -, -, current⟩ :=
    subscriber_current_iff lone_run here ends
  have value : mid.value? () = some 1 := by
    rw [perform?_unique called (show lone.perform? 20 (eager 0) = some _ from rfl)]
    rfl
  have events : ((net₁.start (.set () 2 fun _ => .done)).trace 20).of () =
      [.stored 2, .began 2, .called 0 2, .ended] := by
    cases ends
    rfl
  refine ⟨net₁, net₂, id, ends, later, handed, ?_, ?_⟩
  · have atOnce := current [] net₁ (.none net₁) (by simp)
    rw [Trace.of_nil, List.append_nil, value] at atOnce
    exact fun same => absurd (atOnce.1 same) (by simp [Cell.new])
  · have after := current _ net₂ (.more later (.none net₂))
    rw [List.append_nil, events] at after
    rw [events]
    exact (after (by simp)).2 (.inr ⟨2, by simp⟩)

/-- A newcomer need not know the present value when its subscription has been made. -/
theorem subscriber_behind :
    ¬ ∀ (net net₁ : Network Unit (fun _ => Nat) Unit) (cell : Cell Unit (fun _ => Nat) Unit ())
      (callback : Nat → Action Unit (fun _ => Nat) Unit) (limit id : Nat),
      let es := ((net.start (.subscribe () callback fun _ => .done)).trace limit).of ()
      (∃ tr links, Run (fun _ => True) tr links net.idle) → net.cells () = some cell →
      net.perform? limit (.subscribe () callback fun _ => .done) = some net₁ →
      es.getLast? = some (.enrolled id) → net₁.value? () = (heard cell.value id es).getLast? := by
  intro always
  obtain ⟨net₁, ends⟩ := Option.isSome_iff_exists.1
    (rfl : (lone.perform? 20 (.subscribe () eager fun _ => .done)).isSome = true)
  have current := always lone net₁ (.new 0) eager 20 0 ⟨_, _, lone_run⟩ rfl ends rfl
  have stored : net₁.value? () = some 1 := by
    cases ends
    rfl
  rw [stored] at current
  exact absurd current (by decide)

end Network
end FormSnippet
