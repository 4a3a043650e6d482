import Mathlib.Data.List.Induction
import FormSnippet.Proofs.Network.Subscription
import FormSnippet.Proofs.Network.Without

/-!
# Roster — the two lists of subscribers

While a round is under way the subscribers of a cell are in two lists: those that the round has
taken out of the cell, and those that are in the cell itself.  A withdrawal strikes its number off
the second list at once, but from the first one only when the round ends; until then the number is
recorded in `removed`.

- `Alive`              : a number that was issued and has not been withdrawn since
- `mem_registered_iff` : the registrations after some events are the numbers that are alive
- `Phase.Leaving`      : a number that is struck off when the round ends
- `Machine.Roster`     : what the two lists hold at one moment
- `roster_kept`        : they hold it at every moment of every run
-/

namespace FormSnippet
namespace Network

/-! ## Numbers that are alive -/

section Alive

variable {α : Type} {id : Nat} {e : Event α} {es : List (Event α)}

/-- The number was issued, and has not been withdrawn since. -/
def Alive (id : Nat) (es : List (Event α)) : Prop :=
  ∃ before e after, es = before ++ e :: after ∧ e.issue? = some id ∧ .withdrawn id ∉ after

theorem not_alive_nil : ¬ Alive id ([] : List (Event α)) := by
  rintro ⟨before, e, after, split, -⟩
  cases before <;> cases split

theorem alive_concat :
    Alive id (es ++ [e]) ↔ e.issue? = some id ∨ Alive id es ∧ e ≠ .withdrawn id := by
  constructor
  · rintro ⟨before, f, after, split, issue, stays⟩
    -- The number was issued by the last event or by an earlier one.
    rcases List.eq_nil_or_concat after with rfl | ⟨after, last, rfl⟩
    · rcases List.append_inj' split rfl with ⟨-, same⟩
      cases same
      exact .inl issue
    · have regroup : es ++ [e] = (before ++ f :: after) ++ [last] := by
        simpa using split
      rcases List.append_inj' regroup rfl with ⟨rfl, same⟩
      cases same
      simp only [List.concat_eq_append, List.mem_append, List.mem_singleton, not_or] at stays
      exact .inr ⟨⟨before, f, after, rfl, issue, stays.1⟩, Ne.symm stays.2⟩
  · rintro (issue | ⟨⟨before, f, after, rfl, issue, stays⟩, kept⟩)
    · exact ⟨es, e, [], rfl, issue, List.not_mem_nil⟩
    · refine ⟨before, f, after ++ [e], by simp, issue, ?_⟩
      simpa [stays] using Ne.symm kept

theorem Event.mem_register_iff {ids : List Nat} (alive : e ≠ .dropped) :
    id ∈ e.register ids ↔ e.issue? = some id ∨ id ∈ ids ∧ e ≠ .withdrawn id := by
  constructor
  · intro h
    rcases Event.of_mem_register h with old | new
    · refine or_iff_not_imp_left.2 fun _ => ⟨old, ?_⟩
      rintro rfl
      simp [Event.register] at h
    · exact .inl new
  · rintro (new | ⟨old, kept⟩)
    · exact Event.mem_register_of_issue new
    · exact Event.mem_register old kept alive

/-- As long as the cell is there, the registrations are the numbers that are alive. -/
theorem mem_registered_iff (there : .dropped ∉ es) : id ∈ registered es ↔ Alive id es := by
  induction es using List.reverseRecOn with
  | nil => simp [registered, not_alive_nil]
  | append_singleton es e ih =>
      simp only [List.mem_append, List.mem_singleton, not_or] at there
      rw [registered_append, List.foldl_cons, List.foldl_nil,
        Event.mem_register_iff (Ne.symm there.2), alive_concat, ih there.1]

end Alive

variable {ι : Type} {V : ι → Type} {σ : Type} {i : ι}

/-! ## Numbers of a phase -/

section Phases

variable {p q : Phase ι V σ i} {e : Event (V i)} {es : List (Event (V i))} {id : Nat}

/-- The number has been withdrawn during the round that is under way, and will be gone when that
ends. -/
def Phase.Leaving (id : Nat) : Phase ι V σ i → Prop
  | .delivering _ _ new n _ removed => id ∈ removed ∧ id < n ∧ ∀ s ∈ new, s.id ≠ id
  | _ => False

theorem Turn.leaving (turn : Turn p e q) (h : p.Leaving id) :
    q.Leaving id ∧ e ≠ .ended ∨ e = .ended ∧ q.Taken id (fun _ => False) := by
  -- Within the round newcomers get other numbers; its end strikes the number off.
  cases turn with
  | storeLater | call | pass => exact .inl ⟨h, by simp⟩
  | enrolLater r value new n dirty removed callback =>
      rcases h with ⟨withdrawn, below, apart⟩
      refine .inl ⟨⟨withdrawn, Nat.lt_succ_of_lt below, ?_⟩, by simp⟩
      intro s hs
      rcases List.mem_append.1 hs with old | newest
      · exact apart s old
      · rcases List.mem_singleton.1 newest with rfl
        exact Ne.symm (Nat.ne_of_lt below)
  | withdrawLater r value new n dirty removed other =>
      rcases h with ⟨withdrawn, below, apart⟩
      refine .inl ⟨⟨List.mem_append_left _ withdrawn, below, ?_⟩, by simp⟩
      exact fun s hs => apart s (List.mem_filter.1 hs).1
  | finish x value called new n removed | again x value called new n removed =>
      rcases h with ⟨withdrawn, below, apart⟩
      refine .inr ⟨rfl, below, ?_⟩
      rintro s hs rfl
      rcases List.mem_append.1 hs with back | newcomer
      · exact absurd withdrawn (by simpa using (List.mem_filter.1 back).2)
      · exact apart s newcomer rfl
  | _ => cases h

/-- Once the round has ended, nobody has the number, and nobody will. -/
theorem Turns.leaving (turns : Turns p es q) (h : p.Leaving id) (ended : .ended ∈ es) :
    q.Taken id (fun _ => False) := by
  induction turns with
  | refl => cases ended
  | cons turn rest ih =>
      rcases turn.leaving h with ⟨stays, within⟩ | ⟨rfl, gone⟩
      · exact ih stays ((List.mem_cons.1 ended).resolve_left (Ne.symm within))
      · exact rest.taken gone

end Phases

/-! ## The two lists -/

/-- The numbers of the subscribers in the list of the cell. -/
def Cell.listed (cell : Cell ι V σ i) : List Nat :=
  cell.subscribers.map (·.id)

variable [DecidableEq ι]

/-- The numbers of the subscribers that rounds of the cell have taken out of it. -/
def Machine.checkedOut (m : Machine ι V σ) (i : ι) : List Nat :=
  (openRounds i m.stack).flatMap fun r => (r.called ++ r.pending).map (·.id)

/-- How a cell keeps its subscribers at a moment at which `es` has happened to it. -/
structure Machine.Roster (m : Machine ι V σ) {i : ι} (cell : Cell ι V σ i)
    (es : List (Event (V i))) : Prop where
  /-- One round is under way at most, and the cell tells whether there is one. -/
  rounds : (openRounds i m.stack).length = if cell.notifying then 1 else 0
  /-- When there is none, nothing is left of the last one. -/
  resting : openRounds i m.stack = [] →
    cell.notifying = false ∧ cell.dirty = false ∧ cell.removed = []
  /-- The numbers that have been issued are those below the next one. -/
  issued : issued es = List.range cell.nextId
  ascending : (m.checkedOut i ++ cell.listed).Pairwise (· < ·)
  below : ∀ id ∈ m.checkedOut i ++ cell.listed, id < cell.nextId
  /-- A number is in exactly one of the two lists if it is alive.  Apart from these there are only
  the numbers that were checked out and have been recorded as removed. -/
  once : ∀ id, Xor (id ∈ m.checkedOut i) (id ∈ cell.listed) ↔
    Alive id es ∨ id ∈ m.checkedOut i ∧ id ∈ cell.removed
  /-- Those are no longer alive. -/
  leaving : ∀ id ∈ m.checkedOut i, id ∈ cell.removed → ¬ Alive id es
  /-- From the end of the round on they are in neither list. -/
  gone : ∀ id ∈ m.checkedOut i, id ∈ cell.removed → ∀ n cell', .ended ∈ (m.trace n).of i →
    (m.run n).cells i = some cell' → id ∉ (m.run n).checkedOut i ++ cell'.listed

namespace Machine.InPhase

variable {m : Machine ι V σ} {p : Phase ι V σ i} {cell : Cell ι V σ i} {es : List (Event (V i))}
  {id : Nat}

/-- A cell that is there rests, with nothing left of a round, or one round of it is under way. -/
theorem of_here (h : m.InPhase i p) (here : m.cells i = some cell) :
    (p = .resting cell.value cell.subscribers cell.nextId ∧ openRounds i m.stack = [] ∧
      cell.notifying = false ∧ cell.dirty = false ∧ cell.removed = []) ∨
    ∃ r, p = .delivering r cell.value cell.subscribers cell.nextId cell.dirty cell.removed ∧
      openRounds i m.stack = [r] ∧ cell.notifying = true := by
  cases p with
  | resting value subs n =>
      rcases h with ⟨rests, none⟩
      rcases Option.some.inj (here.symm.trans rests) with rfl
      exact .inl ⟨rfl, none, rfl, rfl, rfl⟩
  | delivering r value new n dirty removed =>
      rcases h with ⟨delivers, one⟩
      rcases Option.some.inj (here.symm.trans delivers) with rfl
      exact .inr ⟨r, rfl, one, rfl⟩
  | due => cases h
  | _ => simp [show m.cells i = none from h.1] at here

/-- The two lists, one behind the other, are the subscribers of the phase. -/
theorem lists (h : m.InPhase i p) (here : m.cells i = some cell) :
    m.checkedOut i ++ cell.listed = p.subscribers.map (·.id) ∧ cell.nextId = p.nextId := by
  rcases h.of_here here with ⟨rfl, none, -⟩ | ⟨r, rfl, one, -⟩
  · simp [checkedOut, Cell.listed, none, Phase.subscribers, Phase.nextId]
  · simp [checkedOut, Cell.listed, one, Phase.subscribers, Phase.nextId]

/-- The registrations are the numbers in the two lists, but for those that have been removed from
the first. -/
theorem lists_kept (h : m.InPhase i p) (here : m.cells i = some cell) :
    id ∈ p.kept.map (·.id) ↔ id ∈ m.checkedOut i ∧ id ∉ cell.removed ∨ id ∈ cell.listed := by
  rcases h.of_here here with ⟨rfl, none, -⟩ | ⟨r, rfl, one, -⟩
  · simp [checkedOut, Cell.listed, none]
  · have filtered : ((r.called ++ r.pending).filter (·.id ∉ cell.removed)).map (·.id) =
        (m.checkedOut i).filter (· ∉ cell.removed) := by
      simp [checkedOut, one, List.filter_map, Function.comp_def]
    rw [Phase.kept, List.map_append, filtered, List.mem_append, List.mem_filter, decide_eq_true_eq,
      Cell.listed]

/-- A number that was checked out and has been removed is about to go. -/
theorem leaving (h : m.InPhase i p) (here : m.cells i = some cell) (ordered : p.Ordered)
    (out : id ∈ m.checkedOut i) (removed : id ∈ cell.removed) : p.Leaving id := by
  rcases h.lists here with ⟨lists, next⟩
  rw [Phase.Ordered, ← lists, ← next] at ordered
  rcases List.pairwise_append.1 ordered with ⟨ascending, -, below⟩
  rcases h.of_here here with ⟨rfl, none, -⟩ | ⟨r, rfl, -⟩
  · simp [checkedOut, none] at out
  · refine ⟨removed, below id (List.mem_append_left _ out) _ (List.mem_singleton_self _), ?_⟩
    -- The numbers of the newcomers lie above those that were checked out.
    intro s hs
    have later : id < s.id :=
      (List.pairwise_append.1 ascending).2.2 id out s.id (List.mem_map_of_mem hs)
    exact Ne.symm (Nat.ne_of_lt later)

theorem roster (h : m.InPhase i p) (turns : Turns .unborn es p) (here : m.cells i = some cell) :
    m.Roster cell es := by
  have ordered : p.Ordered := turns.ordered (by simp [Phase.Ordered, Phase.subscribers])
  rcases h.lists here with ⟨lists, next⟩
  have numbers : (m.checkedOut i ++ cell.listed ++ [cell.nextId]).Pairwise (· < ·) := by
    rw [lists, next]
    exact ordered
  rcases List.pairwise_append.1 numbers with ⟨ascending, -, below⟩
  rcases List.pairwise_append.1 ascending with ⟨-, -, apart⟩
  have never : ∀ id ∈ m.checkedOut i, id ∉ cell.listed := by
    intro id out own
    exact absurd (apart id out id own) (Nat.lt_irrefl id)
  have there : .dropped ∉ es := h.not_dropped turns (by simp [here])
  have alive : ∀ id, Alive id es ↔
      id ∈ m.checkedOut i ∧ id ∉ cell.removed ∨ id ∈ cell.listed := by
    intro id
    have same : registered es = p.kept.map (·.id) := turns.registered_eq.symm
    rw [← mem_registered_iff there, same]
    exact h.lists_kept here
  exact
    { rounds := by
        rcases h.of_here here with ⟨-, none, free, -⟩ | ⟨r, -, one, busy⟩
        · rw [none, free]
          rfl
        · rw [one, busy]
          rfl
      resting := by
        intro none
        rcases h.of_here here with ⟨-, -, rests⟩ | ⟨r, -, one, -⟩
        · exact rests
        · simp [none] at one
      issued := by
        rcases turns.issued_eq with ⟨k, last, numbers⟩
        have count : cell.nextId = k := by
          rw [next, last]
          exact Nat.zero_add k
        rw [numbers, count, List.range_eq_range']
        rfl
      ascending
      below := fun id mem => below id mem cell.nextId (List.mem_singleton_self _)
      once := by
        intro id
        rw [alive]
        constructor
        · rintro (⟨out, -⟩ | ⟨own, -⟩)
          · by_cases removed : id ∈ cell.removed
            · exact .inr ⟨out, removed⟩
            · exact .inl (.inl ⟨out, removed⟩)
          · exact .inl (.inr own)
        · rintro ((⟨out, -⟩ | own) | ⟨out, -⟩)
          · exact .inl ⟨out, never id out⟩
          · exact .inr ⟨own, fun out => never id out own⟩
          · exact .inl ⟨out, never id out⟩
      leaving := by
        intro id out removed stays
        rcases (alive id).1 stays with ⟨-, kept⟩ | own
        · exact kept removed
        · exact never id out own
      gone := by
        intro id out removed n cell' ended later
        obtain ⟨q, during, after⟩ := Machine.turns_run h n
        have taken := during.leaving (h.leaving here ordered out removed) ended
        rw [(after.lists later).1]
        intro mem
        obtain ⟨s, hs, number⟩ := List.mem_map.1 mem
        exact taken.holder s hs number }

end Machine.InPhase

/-! ## Runs -/

section Runs

variable {allowed : Action ι V σ → Prop} {tr : Trace ι V} {links : List (Link ι V σ)}
  {m : Machine ι V σ}

/-- In every run no number of a cell is issued twice, and at every moment the subscribers of a cell
that is there are in its two lists as they should be. -/
theorem roster_kept (run : Run allowed tr links m) (i : ι) :
    (issued (tr.of i)).Nodup ∧ ∀ cell, m.cells i = some cell → m.Roster cell (tr.of i) := by
  rcases run.turns i with ⟨p, turns, now⟩
  constructor
  · exact turns.issued_lt.imp Nat.ne_of_lt
  · intro cell here
    exact now.roster turns here

end Runs

/-! ## A cell in the middle of a round -/

/-- Registers a newcomer, withdraws the subscriber whose turn is next, and asks for a second
round. -/
def shuffle (value : Nat) : Action Unit (fun _ => Nat) Unit :=
  if value = 1 then
    .subscribe () (fun _ => .done) fun _ => .unsubscribe () 1 fun _ => .set () 2 fun _ => .done
  else .done

/-- Registers three subscribers, the first of which shuffles, and stores the value that makes it
do so. -/
def shuffling : Action Unit (fun _ => Nat) Unit :=
  .subscribe () shuffle fun _ =>
    .subscribe () (fun _ => .done) fun _ => .subscribe () (fun _ => .done) fun _ => poke

/-- The moment at which the first subscriber has done all this. -/
def midRound : Machine Unit (fun _ => Nat) Unit :=
  (lone.start shuffling).run 16

def midRoundCell : Cell Unit (fun _ => Nat) Unit () where
  value := 2
  subscribers := [⟨3, fun _ => .done⟩]
  nextId := 4
  notifying := true
  dirty := true
  removed := [1]

def midRoundEvents : List (Event Nat) :=
  [.created 0, .enrolled 0, .enrolled 1, .enrolled 2, .stored 1, .began 1, .called 0 1,
    .enrolled 3, .withdrawn 1, .stored 2]

/-- The newcomer is listed while the others are checked out, and the one that was withdrawn is gone
when the second round begins. -/
theorem roster_kept_midRound :
    midRound.cells () = some midRoundCell ∧ midRound.Roster midRoundCell midRoundEvents ∧
      midRound.checkedOut () = [0, 1, 2] ∧ ¬ Alive 1 midRoundEvents ∧
      1 ∉ (midRound.run 5).checkedOut () := by
  have run : Run (fun _ => True) ([⟨(), .created 0⟩] ++ (lone.start shuffling).trace 16) []
      midRound :=
    (lone_run.start trivial).steps 16
  have here : midRound.cells () = some midRoundCell := rfl
  have roster : midRound.Roster midRoundCell midRoundEvents :=
    (roster_kept run ()).2 midRoundCell here
  have out : 1 ∈ midRound.checkedOut () := by decide
  have removed : 1 ∈ midRoundCell.removed := by decide
  -- The fifth step from here ends the round.
  have ended : .ended ∈ (midRound.trace 5).of () := by decide
  obtain ⟨later, there⟩ : ∃ cell, (midRound.run 5).cells () = some cell := ⟨_, rfl⟩
  have left := roster.gone 1 out removed 5 later ended there
  exact ⟨here, roster, rfl, roster.leaving 1 out removed,
    fun still => left (List.mem_append_left _ still)⟩

end Network
end FormSnippet
