import FormSnippet.Proofs.Network.Run

/-!
# Discipline — who is called in a round, with what, and when

A round is the stretch of a cell's events between a `began` and the next `ended`.  Its turns are the
registrations that were alive when it began, in the order in which they were made; a subscriber that
is withdrawn before its turn is passed over, and every other one is called with the value that the
cell held when the round began.

- `Inside`            : events within one round
- `Disciplined`       : the laws of rounds, as laws about the events of a cell
- `Turns.disciplined` : a cell that goes through turns obeys them
-/

namespace FormSnippet
namespace Network

/-- The events neither begin nor end a round. -/
def Inside {α : Type} (body : List (Event α)) : Prop :=
  ∀ e ∈ body, e.isBound = false

/-- The laws of rounds.  In each of them the list of events is split where a round begins, and
`body` is what happens during it. -/
structure Disciplined {α : Type} (es : List (Event α)) : Prop where
  /-- Callbacks are called during rounds only. -/
  within : ∀ {before id value after}, es = before ++ .called id value :: after →
    ∃ pre body, before = pre ++ .began value :: body ∧ Inside body
  /-- A round delivers the value that the cell holds when it begins. -/
  delivers : ∀ {pre value post}, es = pre ++ .began value :: post → held pre = some value
  /-- No registration is listed twice. -/
  once : ∀ {pre post}, es = pre ++ post → (registered pre).Nodup
  /-- Turns come in the order of registration, from the first one on. -/
  inOrder : ∀ {pre value body post}, es = pre ++ .began value :: (body ++ post) → Inside body →
    turns body <+: registered pre
  /-- A round does not end before everybody had a turn. -/
  complete : ∀ {pre value body post}, es = pre ++ .began value :: (body ++ .ended :: post) →
    Inside body → turns body = registered pre
  /-- Whoever is called has not been withdrawn, and is told the value of the round. -/
  calls : ∀ {pre value body id told post},
    es = pre ++ .began value :: (body ++ .called id told :: post) → Inside body →
    told = value ∧ .withdrawn id ∉ body
  /-- Whoever is passed over has been withdrawn during the round. -/
  passes : ∀ {pre value body id post},
    es = pre ++ .began value :: (body ++ .passed id :: post) → Inside body →
    .withdrawn id ∈ body
  /-- A newcomer has no turn in the round during which it is registered. -/
  newcomers : ∀ {pre value body post e id}, es = pre ++ .began value :: (body ++ post) →
    Inside body → e ∈ body → e.issue? = some id → id ∉ turns body
  /-- It is called in the next round and in every later one, unless it is withdrawn. -/
  joins : ∀ {pre e id mid value body post},
    es = pre ++ e :: (mid ++ .began value :: (body ++ .ended :: post)) → e.issue? = some id →
    Inside body → .withdrawn id ∉ mid ++ body → .called id value ∈ body
  /-- Nobody is called once its registration has been withdrawn. -/
  silent : ∀ {pre id post}, es = pre ++ .withdrawn id :: post → id ∈ issued pre →
    ∀ value, .called id value ∉ post

variable {ι : Type} {V : ι → Type} {σ : Type} {i : ι}

/-! ## Rounds as turns -/

/-- The phase is a round that began with these subscribers and in which `body` has happened. -/
def Phase.During (value : V i) (subs : List (Subscriber ι V σ i)) (body : List (Event (V i))) :
    Phase ι V σ i → Prop
  | .delivering r _ _ _ _ removed =>
      r.value = value ∧ r.called ++ r.pending = subs ∧ r.called.map (·.id) = turns body ∧
        ∀ id, id ∈ removed ↔ .withdrawn id ∈ body
  | _ => False

/-- The value of the round that is under way. -/
def Phase.delivers? : Phase ι V σ i → Option (V i)
  | .delivering r _ _ _ _ _ => some r.value
  | _ => none

section Rounds

variable {p q : Phase ι V σ i} {e : Event (V i)} {value : V i} {subs : List (Subscriber ι V σ i)}
  {body fs : List (Event (V i))}

theorem Turn.during (turn : Turn p e q) (inside : e.isBound = false)
    (h : p.During value subs body) : q.During value subs (body ++ [e]) := by
  cases turn with
  | storeLater | enrolLater =>
      simpa [Phase.During, Event.turn?] using h
  | withdrawLater r now new n dirty removed id =>
      rcases h with ⟨told, order, called, gone⟩
      refine ⟨told, order, by simpa [Event.turn?] using called, fun id' => ?_⟩
      simp [gone id']
  | call | pass =>
      rcases h with ⟨told, order, called, gone⟩
      refine ⟨told, by simpa using order, ?_, by simpa using gone⟩
      simp [Event.turn?, ← called]
  | finish | again | begin => cases inside
  | _ => cases h

theorem Turns.during (turns : Turns p fs q) (inside : Inside fs)
    (h : p.During value subs body) : q.During value subs (body ++ fs) := by
  induction turns generalizing body with
  | refl =>
      simpa using h
  | cons turn _ ih =>
      have next := turn.during (inside _ (by simp)) h
      simpa using ih (fun f hf => inside f (by simp [hf])) next

/-- A call is due to the subscriber whose turn it is, if that has not been withdrawn. -/
theorem Turn.called_during {id : Nat} {told : V i} (turn : Turn p (.called id told) q)
    (h : p.During value subs body) : told = value ∧ .withdrawn id ∉ body := by
  cases turn with
  | call present =>
      rcases h with ⟨told, -, -, gone⟩
      exact ⟨told, fun withdrawn => present ((gone _).2 withdrawn)⟩

theorem Turn.passed_during {id : Nat} (turn : Turn p (.passed id) q)
    (h : p.During value subs body) : .withdrawn id ∈ body := by
  cases turn with
  | pass absent =>
      rcases h with ⟨-, -, -, gone⟩
      exact (gone _).1 absent

theorem Turn.ended_during (turn : Turn p .ended q) (h : p.During value subs body) :
    turns body = subs.map (·.id) := by
  cases turn with
  | finish | again =>
      rcases h with ⟨-, order, called, -⟩
      rw [← called, ← order]
      simp

/-- A subscriber is called while its registration is alive. -/
theorem Turn.called_registered {id : Nat} {told : V i} (turn : Turn p (.called id told) q) :
    id ∈ p.kept.map (·.id) := by
  cases turn with
  | @call x now called pending new n dirty removed s present =>
      exact List.mem_map_of_mem (by simp [present])

/-- A round begins with the value and the registrations that there are. -/
theorem Turns.begun {pre rest : List (Event (V i))}
    (h : Turns .unborn (pre ++ .began value :: rest) q) :
    ∃ (subs : List (Subscriber ι V σ i)) (r : Phase ι V σ i),
      registered pre = subs.map (·.id) ∧ held pre = some value ∧ r.During value subs [] ∧
        Turns r rest q := by
  rcases h.split with ⟨p, before, after⟩
  rcases after.head with ⟨r, turn, rest⟩
  cases turn with
  | begin _ subs n =>
      refine ⟨subs, _, before.registered_eq.symm, before.value_eq.symm, ?_, rest⟩
      exact ⟨rfl, rfl, rfl, by simp⟩

theorem Turn.delivers (turn : Turn p e q) (round : q.delivers? = some value) :
    e = .began value ∨ p.delivers? = some value ∧ e.isBound = false := by
  cases turn with
  | begin => exact .inl (by simpa [Phase.delivers?] using round)
  | storeLater | enrolLater | withdrawLater | call | pass => exact .inr ⟨round, rfl⟩
  | _ => cases round

/-- A round that is under way began once. -/
theorem Turns.delivers {es : List (Event (V i))} (turns : Turns p es q)
    (round : q.delivers? = some value) :
    (∃ pre body, es = pre ++ .began value :: body ∧ Inside body) ∨
      p.delivers? = some value ∧ Inside es := by
  induction turns with
  | refl =>
      exact .inr ⟨round, by simp [Inside]⟩
  | @cons p q r e es turn rest ih =>
      rcases ih round with ⟨pre, body, rfl, inside⟩ | ⟨open_, inside⟩
      · exact .inl ⟨e :: pre, body, rfl, inside⟩
      · rcases turn.delivers open_ with rfl | ⟨before, bound⟩
        · exact .inl ⟨[], es, rfl, inside⟩
        · exact .inr ⟨before, by simpa [Inside, bound] using inside⟩

theorem Turn.called_delivers {id : Nat} {told : V i} (turn : Turn p (.called id told) q) :
    p.delivers? = some told := by
  cases turn with
  | call => rfl

end Rounds

/-! ## Registrations -/

section Registrations

variable {α : Type} {id : Nat}

theorem Event.of_mem_register {e : Event α} {ids : List Nat} (h : id ∈ e.register ids) :
    id ∈ ids ∨ e.issue? = some id := by
  cases e with
  | enrolled | linked =>
      rcases List.mem_append.1 h with old | new
      · exact .inl old
      · exact .inr (by simpa [Event.issue?, eq_comm] using new)
  | withdrawn => exact .inl (List.mem_filter.1 h).1
  | dropped => cases h
  | _ => exact .inl h

theorem Event.mem_register {e : Event α} {ids : List Nat} (h : id ∈ ids)
    (stays : e ≠ .withdrawn id) (alive : e ≠ .dropped) : id ∈ e.register ids := by
  cases e with
  | enrolled | linked => exact List.mem_append_left _ h
  | withdrawn gone =>
      have other : id ≠ gone := fun same => stays (by rw [same])
      exact List.mem_filter.2 ⟨h, by simpa using other⟩
  | dropped => exact absurd rfl alive
  | _ => exact h

theorem Event.mem_register_of_issue {e : Event α} {ids : List Nat} (issue : e.issue? = some id) :
    id ∈ e.register ids := by
  cases e <;> simp_all [Event.issue?, Event.register]

/-- A registration that is alive was made. -/
theorem issued_of_registered {es : List (Event α)} {ids : List Nat}
    (h : id ∈ es.foldl Event.register ids) : id ∈ ids ∨ id ∈ issued es := by
  induction es generalizing ids with
  | nil => exact .inl h
  | cons e es ih =>
      rcases ih h with now | later
      · rcases Event.of_mem_register now with old | new
        · exact .inl old
        · exact .inr (List.mem_filterMap.2 ⟨e, by simp, new⟩)
      · rcases List.mem_filterMap.1 later with ⟨f, hf, issue⟩
        exact .inr (List.mem_filterMap.2 ⟨f, by simp [hf], issue⟩)

/-- A registration stays alive until it is withdrawn or the cell is dropped. -/
theorem registered_stays {es : List (Event α)} {ids : List Nat} (h : id ∈ ids)
    (stays : .withdrawn id ∉ es) (alive : .dropped ∉ es) : id ∈ es.foldl Event.register ids := by
  induction es generalizing ids with
  | nil => exact h
  | cons e es ih =>
      simp only [List.mem_cons, not_or] at stays alive
      exact ih (Event.mem_register h (Ne.symm stays.1) (Ne.symm alive.1)) stays.2 alive.2

end Registrations

/-! ## The laws -/

section Laws

variable {q : Phase ι V σ i} {es : List (Event (V i))}

theorem Turns.registered_lt (turns : Turns .unborn es q) :
    (registered es).Pairwise (· < ·) := by
  have ordered : q.Ordered := turns.ordered (by simp [Phase.Ordered, Phase.subscribers])
  have same : registered es = q.kept.map (·.id) := turns.registered_eq.symm
  rw [same]
  exact ordered.ids.sublist (q.kept_sublist.map _)

variable {pre mid body post : List (Event (V i))} {value told : V i} {id : Nat} {e : Event (V i)}

theorem Turns.call_within (whole : Turns .unborn (pre ++ .called id told :: post) q) :
    ∃ pre' body, pre = pre' ++ .began told :: body ∧ Inside body := by
  rcases whole.split with ⟨p, front, back⟩
  rcases back.head with ⟨r, turn, -⟩
  rcases front.delivers turn.called_delivers with began | ⟨round, -⟩
  · exact began
  · cases round

theorem Turns.in_order (whole : Turns .unborn (pre ++ .began value :: (body ++ post)) q)
    (inside : Inside body) : turns body <+: registered pre := by
  rcases whole.begun with ⟨subs, r, ids, -, start, rest⟩
  rcases rest.split with ⟨p, front, -⟩
  have now := front.during inside start
  cases p with
  | delivering r' now' new n dirty removed =>
      rcases now with ⟨-, order, called, -⟩
      exact ⟨r'.pending.map (·.id), by rw [ids, ← order, List.map_append, called, List.nil_append]⟩
  | _ => cases now

theorem Turns.all_had_turn
    (whole : Turns .unborn (pre ++ .began value :: (body ++ .ended :: post)) q)
    (inside : Inside body) : turns body = registered pre := by
  rcases whole.begun with ⟨subs, r, ids, -, start, rest⟩
  rcases rest.split with ⟨p, front, back⟩
  rcases back.head with ⟨p', turn, -⟩
  rw [ids]
  exact turn.ended_during (front.during inside start)

theorem Turns.call_present
    (whole : Turns .unborn (pre ++ .began value :: (body ++ .called id told :: post)) q)
    (inside : Inside body) : told = value ∧ .withdrawn id ∉ body := by
  rcases whole.begun with ⟨subs, r, -, -, start, rest⟩
  rcases rest.split with ⟨p, front, back⟩
  rcases back.head with ⟨p', turn, -⟩
  exact turn.called_during (front.during inside start)

theorem Turns.pass_absent
    (whole : Turns .unborn (pre ++ .began value :: (body ++ .passed id :: post)) q)
    (inside : Inside body) : .withdrawn id ∈ body := by
  rcases whole.begun with ⟨subs, r, -, -, start, rest⟩
  rcases rest.split with ⟨p, front, back⟩
  rcases back.head with ⟨p', turn, -⟩
  exact turn.passed_during (front.during inside start)

theorem Turns.newcomer_waits
    (whole : Turns .unborn (pre ++ .began value :: (body ++ post)) q) (inside : Inside body)
    (mem : e ∈ body) (issue : e.issue? = some id) : id ∉ turns body := by
  intro turn
  -- Whoever has a turn was registered before the round, and its number is not issued again.
  have alive : id ∈ registered pre := (whole.in_order inside).subset turn
  rcases issued_of_registered alive with none | before
  · cases none
  · refine whole.issued_once before (List.mem_filterMap.2 ⟨e, ?_, issue⟩)
    simp [mem]

/-- A turn is a call unless the subscriber was withdrawn before. -/
theorem Turns.called_of_turn
    (whole : Turns .unborn (pre ++ .began value :: (body ++ post)) q) (inside : Inside body)
    (turn : id ∈ turns body) (stays : .withdrawn id ∉ body) : .called id value ∈ body := by
  rcases List.mem_filterMap.1 turn with ⟨e, mem, here⟩
  rcases List.append_of_mem mem with ⟨front, back, rfl⟩
  have earlier : Inside front := fun f hf => inside f (by simp [hf])
  have cut : Turns .unborn (pre ++ .began value :: (front ++ e :: (back ++ post))) q := by
    simpa using whole
  cases e with
  | called id' told =>
      obtain rfl : id' = id := by simpa [Event.turn?] using here
      rcases cut.call_present earlier with ⟨rfl, -⟩
      exact mem
  | passed id' =>
      obtain rfl : id' = id := by simpa [Event.turn?] using here
      have gone := cut.pass_absent earlier
      exact absurd (List.mem_append_left _ gone) stays
  | _ => cases here

theorem Turns.joins_next
    (whole : Turns .unborn (pre ++ e :: (mid ++ .began value :: (body ++ .ended :: post))) q)
    (issue : e.issue? = some id) (inside : Inside body) (stays : .withdrawn id ∉ mid ++ body) :
    .called id value ∈ body := by
  have regroup : pre ++ e :: (mid ++ .began value :: (body ++ .ended :: post)) =
      (pre ++ e :: mid) ++ .began value :: (body ++ .ended :: post) := by
    simp
  rw [regroup] at whole
  -- The cell is not dropped in between, since a round begins afterwards.
  have alive : .dropped ∉ mid := by
    intro dropped
    rcases whole.split with ⟨p, front, back⟩
    rcases front.gone_of_dropped (by simp [dropped]) with ⟨n, rfl⟩
    cases back.of_gone.1
  have listed : id ∈ registered (pre ++ e :: mid) := by
    rw [registered_append, List.foldl_cons]
    exact registered_stays (Event.mem_register_of_issue issue)
      (fun gone => stays (List.mem_append_left _ gone)) alive
  -- So it is in the list when the round begins, and has had its turn when the round ends.
  have turn : id ∈ turns body := by
    rw [whole.all_had_turn inside]
    exact listed
  exact whole.called_of_turn inside turn (fun gone => stays (List.mem_append_right _ gone))

theorem Turns.silent (whole : Turns .unborn (pre ++ .withdrawn id :: post) q)
    (issue : id ∈ issued pre) : .called id told ∉ post := by
  intro called
  rcases List.append_of_mem called with ⟨front, back, rfl⟩
  have regroup : pre ++ .withdrawn id :: (front ++ .called id told :: back) =
      (pre ++ .withdrawn id :: front) ++ .called id told :: back := by
    simp
  rw [regroup] at whole
  rcases whole.split with ⟨p, before, after⟩
  rcases after.head with ⟨r, turn, -⟩
  have alive : id ∈ registered (pre ++ .withdrawn id :: front) := by
    have same : registered (pre ++ .withdrawn id :: front) = p.kept.map (·.id) :=
      before.registered_eq.symm
    rw [same]
    exact turn.called_registered
  rw [registered_append] at alive
  -- The registration is not among those left by the withdrawal, and its number is not used again.
  have origin : id ∈ Event.register (registered pre) (.withdrawn id) ∨ id ∈ issued front :=
    issued_of_registered alive
  rcases origin with left | again
  · simpa [Event.register] using (List.mem_filter.1 left).2
  · refine before.issued_once issue ?_
    simpa [issued, Event.issue?] using again

/-- The events of a cell obey the laws of rounds. -/
theorem Turns.disciplined (whole : Turns .unborn es q) : Disciplined es where
  within := by
    rintro before id value after rfl
    exact whole.call_within
  delivers := by
    rintro pre value post rfl
    rcases whole.begun with ⟨subs, r, -, value, -⟩
    exact value
  once := by
    rintro pre post rfl
    rcases whole.split with ⟨p, front, -⟩
    exact front.registered_lt.imp Nat.ne_of_lt
  inOrder := by
    rintro pre value body post rfl inside
    exact whole.in_order inside
  complete := by
    rintro pre value body post rfl inside
    exact whole.all_had_turn inside
  calls := by
    rintro pre value body id told post rfl inside
    exact whole.call_present inside
  passes := by
    rintro pre value body id post rfl inside
    exact whole.pass_absent inside
  newcomers := by
    rintro pre value body post e id rfl inside mem issue
    exact whole.newcomer_waits inside mem issue
  joins := by
    rintro pre e id mid value body post rfl issue inside stays
    exact whole.joins_next issue inside stays
  silent := by
    rintro pre id post rfl issue value
    exact whole.silent issue

end Laws

/-! ## Runs -/

section Runs

variable [DecidableEq ι] {allowed : Action ι V σ → Prop} {tr : Trace ι V}
  {links : List (Link ι V σ)} {m : Machine ι V σ}

/-- In every run the events of every cell obey the laws of rounds; and the value and the
registrations that the laws speak of are those of the cell. -/
theorem rounds_disciplined (run : Run allowed tr links m) (i : ι) :
    Disciplined (tr.of i) ∧ held (tr.of i) = (m.cells i).map (·.value) ∧
      (m.stack = [] → ∀ cell, m.cells i = some cell →
        registered (tr.of i) = cell.subscribers.map (·.id)) := by
  rcases run.turns i with ⟨p, turns, now⟩
  refine ⟨turns.disciplined, run.held_eq i, ?_⟩
  intro idle cell here
  have registrations : registered (tr.of i) = p.kept.map (·.id) := turns.registered_eq.symm
  rw [registrations, now.rests idle here]
  rfl

end Runs

/-- The meddler withdraws a neighbour in one round and has a second one begin. -/
theorem rounds_disciplined_crowd :
    Disciplined ([.created 0, .enrolled 0, .enrolled 1, .enrolled 2,
      .stored 1, .began 1, .called 0 1, .stored 2, .withdrawn 1, .passed 1, .called 2 1, .ended,
      .began 2, .called 0 2, .called 2 2, .ended] : List (Event Nat)) := by
  obtain ⟨net', ends⟩ :=
    Option.isSome_iff_exists.1 (rfl : (crowd.perform? 20 poke).isSome = true)
  have run := crowd_run.perform trivial ends
  exact (rounds_disciplined run ()).1

end Network
end FormSnippet
